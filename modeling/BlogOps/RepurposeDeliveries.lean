import BlogOps.RepurposeRecords

/-!
# How a delivery of a repurposing job ends

Every way through `_run_job` prepares a session that is then settled.  Whatever
happens to a job, a queued or retryable one has an item to complete, and one that
waits for its review has none.
-/

namespace BlogOps.RepurposeJobs

open Billing EffectRules Jobs KeyedTables TransitionRuns List

variable {after : RepurposeSession}

section Parts

variable {s t : RepurposeSession} {d : RepurposeDelivery}

theorem settleTerminal_ok {books : MeteredBooks} (h : settledBooks d s = .ok books) :
    settleTerminal d s = .ok () { s with books := books } := by
  unfold settleTerminal
  rw [bind_run_ok (get_run s), h]
  rfl

theorem settleTerminal_error {failure : Failure} (h : settledBooks d s = .error failure) :
    settleTerminal d s = .error failure s := by
  unfold settleTerminal
  rw [bind_run_ok (get_run s), h]
  rfl

theorem settleTerminal_returns (h : settleTerminal d s = .ok () t) :
    ∃ books, settledBooks d s = .ok books ∧ t = { s with books := books } := by
  cases hbooks : settledBooks d s with
  | ok books =>
    rw [settleTerminal_ok hbooks] at h
    cases h
    exact ⟨books, rfl, rfl⟩
  | error failure =>
    rw [settleTerminal_error hbooks] at h
    cases h

theorem finalizeCancellation_idle (h : s.job.state ≠ .cancelRequested) :
    finalizeCancellation s = .ok () s := by
  unfold finalizeCancellation
  rw [bind_run_ok (get_run s), if_neg h]
  rfl

theorem finalizeCancellation_requested (h : s.job.state = .cancelRequested) :
    finalizeCancellation s = .ok () (cancelJob s) := by
  unfold finalizeCancellation
  rw [bind_run_ok (get_run s), if_pos h]
  rfl

theorem queued_unrequested (h : s.job.state = .queued) : s.job.state ≠ .cancelRequested := by
  rw [h]
  decide

theorem failRuntime_open (husable : s.broken = false) (hstate : s.job.state ∈ [JobState.queued, .generating])
    (code detail : String) (retryable : Bool) : failRuntime d code detail retryable s =
      if d.database.takesFailure code detail then .ok () (failJob code detail retryable s)
      else .error (.integrity "repurpose_jobs") s := by
  have hrequested : s.job.state ≠ .cancelRequested := by
    rintro h
    rw [h] at hstate
    exact absurd hstate (by decide)
  have hcompleted : s.job.state ∉ completedJobStates := by
    simp only [mem_cons, not_mem_nil, or_false] at hstate
    rcases hstate with h | h <;> rw [h] <;> decide
  unfold failRuntime
  rw [bind_run_ok (get_run s), husable, if_neg Bool.false_ne_true, if_neg hrequested, if_neg hcompleted]
  split <;> rfl

theorem failRuntime_broken (hbroken : s.broken = true) (code detail : String) (retryable : Bool) :
    failRuntime d code detail retryable s = .error (.integrity "PendingRollbackError") s := by
  unfold failRuntime
  rw [bind_run_ok (get_run s), if_pos hbroken]
  rfl

/-- The session of a job whose executor has returned. -/
def reviewed (s : RepurposeSession) : RepurposeSession :=
  { s with job := { s.job with state := .waitingReview } }

/-- What every delivery and command keeps of a job. -/
structure JobInvariant (s : RepurposeSession) : Prop where
  sound : SessionSound s
  usable : s.broken = false
  states : s.job.state ∈ [JobState.queued, .retryableFailed, .finalFailed, .waitingReview,
    .cancelRequested, .cancelled]
  unfinished : s.job.state ∈ [JobState.queued, .retryableFailed] → allSucceeded s.items = false
  reviewable : s.job.state = .waitingReview → allSucceeded s.items = true

/-- Items whose columns and success stay are as sound as they were. -/
theorem SessionSound.mapItems {f : RepurposeJobItem → RepurposeJobItem} (h : SessionSound s)
    (horder : ∀ item, (f item).order = item.order)
    (hstate : ∀ item, (f item).state = .succeeded ↔ item.state = .succeeded)
    (hitems : t.items = s.items.map f) (hvariants : t.variants = s.variants) : SessionSound t := by
  have hid : ∀ item, (f item).id = item.id := fun item => congrArg Prod.fst (horder item)
  have hcount : ∀ item, (f item).variantCount = item.variantCount :=
    fun item => congrArg (fun order => order.2.2) (horder item)
  constructor
  · have hids : t.items.map (·.id) = s.items.map (·.id) := by
      rw [hitems, map_map]
      exact map_congr_left fun item _ => hid item
    unfold Keyed
    rw [hids]
    exact h.keyed
  · rw [hitems]
    simpa using h.nonempty
  · intro item hitem
    rw [hitems] at hitem
    obtain ⟨old, hold, rfl⟩ := mem_map.mp hitem
    rw [hcount]
    exact h.counts old hold
  · intro item hitem
    rw [hitems] at hitem
    obtain ⟨old, hold, rfl⟩ := mem_map.mp hitem
    obtain ⟨hnumbers, hwithin, hcomplete⟩ := h.items old hold
    rw [hvariants]
    constructor
    · rw [hid]
      exact hnumbers
    · rw [hid, hcount]
      exact hwithin
    · rw [hid, hcount, hstate]
      exact hcomplete

theorem allSucceeded_map {f : RepurposeJobItem → RepurposeJobItem}
    (hstate : ∀ item, (f item).state = .succeeded ↔ item.state = .succeeded)
    (items : List RepurposeJobItem) : allSucceeded (items.map f) = allSucceeded items := by
  unfold allSucceeded
  rw [all_map]
  congr 1
  · cases items <;> rfl
  · congr 1
    funext item
    exact decide_eq_decide.mpr (hstate item)

variable (item : RepurposeJobItem)

theorem start_order : item.start.order = item.order := by
  unfold RepurposeJobItem.start
  split <;> rfl

theorem start_succeeded : item.start.state = .succeeded ↔ item.state = .succeeded := by
  unfold RepurposeJobItem.start
  split
  · rename_i hpending
    simp [hpending]
  · rfl

theorem fail_order : item.fail.order = item.order := by
  unfold RepurposeJobItem.fail
  split <;> rfl

theorem fail_succeeded : item.fail.state = .succeeded ↔ item.state = .succeeded := by
  unfold RepurposeJobItem.fail
  split
  · rfl
  · rename_i hopen
    simp only [mem_cons, not_mem_nil, or_false, not_or] at hopen
    simp [hopen.1]

theorem reset_order : item.reset.order = item.order := by
  unfold RepurposeJobItem.reset
  split <;> rfl

theorem reset_succeeded : item.reset.state = .succeeded ↔ item.state = .succeeded := by
  unfold RepurposeJobItem.reset
  split
  · rfl
  · rename_i hopen
    simp [hopen]

theorem sound_startJob (h : SessionSound s) : SessionSound (startJob s) :=
  h.mapItems start_order start_succeeded rfl rfl

theorem sound_failJob (h : SessionSound s) (code detail : String) (retryable : Bool) :
    SessionSound (failJob code detail retryable s) :=
  h.mapItems fail_order fail_succeeded rfl rfl

theorem sound_cancelJob (h : SessionSound s) : SessionSound (cancelJob s) := by
  refine h.mapItems (fun item => ?_) (fun item => ?_) rfl rfl
  · split <;> rfl
  · split
    · rfl
    · rename_i hopen
      simp [hopen]

theorem allSucceeded_cancelJob (s : RepurposeSession) :
    allSucceeded (cancelJob s).items = allSucceeded s.items := by
  apply allSucceeded_map
  intro item
  split
  · rfl
  · rename_i hopen
    simp [hopen]

theorem JobInvariant.withBooks (h : JobInvariant s) (books : MeteredBooks) :
    JobInvariant { s with books := books } :=
  ⟨⟨h.sound.keyed, h.sound.nonempty, h.sound.counts, h.sound.items⟩, h.usable, h.states,
    h.unfinished, h.reviewable⟩

theorem JobInvariant.commit (h : JobInvariant s) : JobInvariant s.commit :=
  ⟨⟨h.sound.keyed, h.sound.nonempty, h.sound.counts, h.sound.items⟩, h.usable, h.states,
    h.unfinished, h.reviewable⟩

/-- An accepted command repeats an earlier one or moves the job along the table. -/
theorem commandJob_ok {call : CommandCall} (h : commandJob s call = .ok after) : after = s ∨
      commandTarget call.command ∈ allowedJobTransitions s.job.state ∧
        after = { moveJob (commandTarget call.command) s with
          commands := s.commands ++ [commandRow s.job.state call] } := by
  unfold commandJob at h
  split at h
  · obtain ⟨_, _, h⟩ := bind_ok h
    cases h
    exact .inl rfl
  · obtain ⟨_, hallowed, h⟩ := bind_ok h
    cases h
    refine .inr ⟨?_, rfl⟩
    rw [← ensureJobTransition_ok_iff]
    cases hensure : ensureJobTransition s.job.state (commandTarget call.command) with
    | ok u => rfl
    | error failure =>
      rw [hensure] at hallowed
      cases hallowed

theorem JobInvariant.command (h : JobInvariant s) {call : CommandCall}
    (hcall : commandJob s call = .ok after) : JobInvariant after := by
  rcases commandJob_ok hcall with rfl | ⟨hallowed, rfl⟩
  · exact h
  cases hcommand : call.command with
  | cancel =>
    exact ⟨⟨h.sound.keyed, h.sound.nonempty, h.sound.counts, h.sound.items⟩, h.usable,
      by simp [moveJob, commandTarget], by simp [moveJob, commandTarget],
      by simp [moveJob, commandTarget]⟩
  | retry =>
    rw [hcommand] at hallowed
    have hfailed : s.job.state = .retryableFailed := by
      have hstates := h.states
      simp only [mem_cons, not_mem_nil, or_false] at hstates
      rcases hstates with hstate | hstate | hstate | hstate | hstate | hstate <;>
        simp [hstate, allowedJobTransitions, commandTarget] at hallowed ⊢
    refine ⟨h.sound.mapItems reset_order reset_succeeded rfl rfl, h.usable,
      by simp [moveJob, commandTarget], fun _ => ?_, by simp [moveJob, commandTarget]⟩
    show allSucceeded (s.items.map RepurposeJobItem.reset) = false
    rw [allSucceeded_map reset_succeeded]
    exact h.unfinished (by simp [hfailed])

theorem jobInvariant_new (h : NewJob s) : JobInvariant s := by
  have hnone : ∀ itemId, itemVariants itemId s.variants = [] := by
    simp [itemVariants, h.variants]
  obtain ⟨first, rest, hitems⟩ := exists_cons_of_ne_nil h.items
  have hfirst := h.pending first (by simp [hitems])
  refine ⟨⟨h.keyed, h.items, fun item hitem => (h.pending item hitem).2, fun item hitem => ?_⟩,
    h.usable, by simp [h.state], fun _ => ?_, by simp [h.state]⟩
  · obtain ⟨hpending, hcount⟩ := h.pending item hitem
    constructor
    · simp [Numbered, hnone]
    · simp [hnone]
    · simp only [hpending, hnone, length_nil]
      exact iff_of_false (by decide) hcount.ne
  · simp [allSucceeded, hitems, hfirst.1]

end Parts

section Task

variable [ResultHashes] {s t : RepurposeSession} {d : RepurposeDelivery}

theorem runJob_idle (hrequested : s.job.state ≠ .cancelRequested) (hqueued : s.job.state ≠ .queued) :
    runJob d s = settleTerminal d s := by
  unfold runJob
  rw [bind_run_ok (finalizeCancellation_idle hrequested), bind_run_ok (get_run s), if_neg hqueued]

theorem runJob_cancelled (h : s.job.state = .cancelRequested) :
    runJob d s = settleTerminal d (cancelJob s) := by
  have hstate : (cancelJob s).job.state ≠ .queued := by simp [cancelJob]
  unfold runJob
  rw [bind_run_ok (finalizeCancellation_requested h), bind_run_ok (get_run _), if_neg hstate]

theorem runJob_unavailable (h : s.job.state = .queued) (hexecutor : d.executor = none) :
    runJob d s = (recordMissingRuntime d >>= fun _ => settleTerminal d) s := by
  unfold runJob
  rw [bind_run_ok (finalizeCancellation_idle (queued_unrequested h)), bind_run_ok (get_run s),
    if_pos h, hexecutor]

variable {executor : RepurposeExecutor}

theorem runJob_queued (h : s.job.state = .queued) (hexecutor : d.executor = some executor) :
    runJob d s = (attempt d executor >>= fun _ => settleTerminal d) (startJob s) := by
  have hmark : markGenerating s = .ok () (startJob s) := by
    unfold markGenerating
    rw [bind_run_ok (get_run s), if_neg (queued_unrequested h), if_pos h]
    rfl
  have hstate : (startJob s).job.state ≠ .cancelled := by simp [startJob]
  have hgenerate : generateJob d executor s = attempt d executor (startJob s) := by
    unfold generateJob
    rw [bind_run_ok hmark, bind_run_ok (get_run _), if_pos hstate]
  unfold runJob
  rw [bind_run_ok (finalizeCancellation_idle (queued_unrequested h)), bind_run_ok (get_run s),
    if_pos h, hexecutor]
  simp only [bind, EStateM.bind, hgenerate]

theorem attempt_ok (h : execute d executor s = .ok () t) (hstate : t.job.state = .generating)
    (hall : allSucceeded t.items = true) : attempt d executor s = .ok () (reviewed t) := by
  have hexecuted : (execute d executor >>= fun _ => pure true) s = .ok true t := by
    rw [bind_run_ok h]
    rfl
  have hidle : t.job.state ≠ .cancelRequested := by simp [hstate]
  have hcancelled : t.job.state ≠ .cancelled := by simp [hstate]
  unfold attempt
  rw [bind_run_ok (tryCatch_run_ok hexecuted _), if_pos rfl,
    bind_run_ok (finalizeCancellation_idle hidle), bind_run_ok (get_run t), if_pos hcancelled]
  unfold completeJob
  rw [bind_run_ok (get_run t), if_neg hidle, modify_run]
  simp only [reviewed, completedState, hall, if_true]

theorem attempt_error {failure : Failure} (h : execute d executor s = .error failure t) :
    attempt d executor s = recordFailure d failure t := by
  have hexecuted : (execute d executor >>= fun _ => pure true) s = .error failure t :=
    bind_run_error h _
  unfold attempt
  cases hrecord : recordFailure d failure t with
  | ok u after =>
    have hhandled : (tryCatch (execute d executor >>= fun _ => pure true) fun failure =>
        recordFailure d failure >>= fun _ => pure false) s = .ok false after := by
      rw [tryCatch_run_error hexecuted, bind_run_ok hrecord]
      rfl
    rw [bind_run_ok hhandled, if_neg Bool.false_ne_true]
    rfl
  | error raised after =>
    have hhandled : (tryCatch (execute d executor >>= fun _ => pure true) fun failure =>
        recordFailure d failure >>= fun _ => pure false) s = .error raised after := by
      rw [tryCatch_run_error hexecuted]
      exact bind_run_error hrecord _
    exact bind_run_error hhandled _

/-- What a delivery comes to before it is settled. -/
inductive Prepared (d : RepurposeDelivery) (s : RepurposeSession) : RepurposeSession → Prop
  | cancelled (h : s.job.state = .cancelRequested) : Prepared d s (cancelJob s)
  | idle (hrequested : s.job.state ≠ .cancelRequested) (hqueued : s.job.state ≠ .queued) :
      Prepared d s s
  | unavailable (hqueued : s.job.state = .queued) (code detail : String) :
      Prepared d s (failJob code detail true s)
  | completed (executor : RepurposeExecutor) (t : RepurposeSession)
      (hqueued : s.job.state = .queued) (hexecutor : d.executor = some executor)
      (hexecuted : execute d executor (startJob s) = .ok () t) (hkept : Extends (startJob s) t)
      (hsound : SessionSound t) (hall : allSucceeded t.items = true) :
      Prepared d s (reviewed t)
  | failed (executor : RepurposeExecutor) (failure : Failure) (t : RepurposeSession)
      (hqueued : s.job.state = .queued)
      (hexecuted : execute d executor (startJob s) = .error failure t)
      (hkept : Extends (startJob s) t) (hsound : SessionSound t) (husable : t.broken = false)
      (hopen : allSucceeded t.items = false) :
      Prepared d s (failJob (failureCode failure) (failureDetail failure)
        (isRetryableRuntimeError failure) t)

theorem prepared_of_runJob (h : JobInvariant s) (hrun : runJob d s = .ok () after) :
    ∃ t books, Prepared d s t ∧ settledBooks d t = .ok books ∧
      after = { t with books := books } := by
  by_cases hrequested : s.job.state = .cancelRequested
  · rw [runJob_cancelled hrequested] at hrun
    obtain ⟨books, hbooks, rfl⟩ := settleTerminal_returns hrun
    exact ⟨_, books, .cancelled hrequested, hbooks, rfl⟩
  by_cases hqueued : s.job.state = .queued
  · cases hexecutor : d.executor with
    | none =>
      rw [runJob_unavailable hqueued hexecutor] at hrun
      obtain ⟨_, t, hfail, hrun⟩ := of_bind_run_ok hrun
      obtain ⟨books, hbooks, rfl⟩ := settleTerminal_returns hrun
      unfold recordMissingRuntime at hfail
      rw [failRuntime_open h.usable (by simp [hqueued])] at hfail
      split at hfail
      · cases hfail
        exact ⟨_, books, .unavailable hqueued _ _, hbooks, rfl⟩
      · cases hfail
    | some executor =>
      rw [runJob_queued hqueued hexecutor] at hrun
      obtain ⟨_, t, hattempt, hrun⟩ := of_bind_run_ok hrun
      obtain ⟨books, hbooks, rfl⟩ := settleTerminal_returns hrun
      have hopen : allSucceeded (startJob s).items = false := by
        rw [show (startJob s).items = s.items.map RepurposeJobItem.start from rfl,
          allSucceeded_map start_succeeded]
        exact h.unfinished (by simp [hqueued])
      have hends := execute_ends d executor (sound_startJob h.sound) hopen
      cases hexecute : execute d executor (startJob s) with
      | ok u executed =>
        obtain ⟨hkept, hsound, hall⟩ := hends.of_ok hexecute
        have hall := hall.mp rfl
        have hstate : executed.job.state = .generating := by
          rw [hkept.job]
          rfl
        rw [attempt_ok hexecute hstate hall] at hattempt
        cases hattempt
        exact ⟨_, books, .completed executor executed hqueued hexecutor hexecute hkept hsound hall,
          hbooks, rfl⟩
      | error failure stopped =>
        obtain ⟨hkept, hsound, hall⟩ := hends.of_error hexecute
        have hopen : allSucceeded stopped.items = false := by
          cases hdone : allSucceeded stopped.items with
          | false => rfl
          | true => cases hall.mpr hdone
        have hstate : stopped.job.state = .generating := by
          rw [hkept.job]
          rfl
        rw [attempt_error hexecute] at hattempt
        unfold recordFailure at hattempt
        cases hbroken : stopped.broken with
        | true =>
          rw [failRuntime_broken hbroken] at hattempt
          cases hattempt
        | false =>
          rw [failRuntime_open hbroken (by simp [hstate])] at hattempt
          split at hattempt
          · cases hattempt
            exact ⟨_, books, .failed executor failure stopped hqueued hexecute hkept hsound hbroken
              hopen, hbooks, rfl⟩
          · cases hattempt
  · rw [runJob_idle hrequested hqueued] at hrun
    obtain ⟨books, hbooks, rfl⟩ := settleTerminal_returns hrun
    exact ⟨s, books, .idle hrequested hqueued, hbooks, rfl⟩

theorem Prepared.invariant (h : JobInvariant s) (hprepared : Prepared d s t) : JobInvariant t := by
  cases hprepared with
  | cancelled hrequested =>
    exact ⟨sound_cancelJob h.sound, h.usable, by simp [cancelJob], by simp [cancelJob], by simp [cancelJob]⟩
  | idle hrequested hqueued => exact h
  | unavailable hqueued code detail =>
    refine ⟨sound_failJob h.sound _ _ _, h.usable, by simp [failJob], fun _ => ?_, by simp [failJob]⟩
    show allSucceeded (s.items.map RepurposeJobItem.fail) = false
    rw [allSucceeded_map fail_succeeded]
    exact h.unfinished (by simp [hqueued])
  | completed executor t hqueued hexecutor hexecuted hkept hsound hall =>
    refine ⟨⟨hsound.keyed, hsound.nonempty, hsound.counts, hsound.items⟩, ?_, by simp [reviewed],
      by simp [reviewed], fun _ => hall⟩
    exact (execute_usable hexecuted).trans h.usable
  | failed executor failure t hqueued hexecuted hkept hsound husable hopen =>
    refine ⟨sound_failJob hsound _ _ _, husable, ?_, fun _ => ?_, ?_⟩
    · cases hretryable : isRetryableRuntimeError failure <;> simp [failJob]
    · show allSucceeded (t.items.map RepurposeJobItem.fail) = false
      rw [allSucceeded_map fail_succeeded]
      exact hopen
    · cases hretryable : isRetryableRuntimeError failure <;> simp [failJob]

theorem JobInvariant.step (h : JobInvariant s) (action : RepurposeAction) :
    JobInvariant (stepJob s action) := by
  cases action with
  | deliver d =>
    show JobInvariant (deliverJob s d)
    unfold deliverJob
    split
    · rename_i after hrun
      obtain ⟨t, books, hprepared, -, rfl⟩ := prepared_of_runJob h hrun
      exact ((hprepared.invariant h).withBooks books).commit
    · exact h
  | command call =>
    show JobInvariant (((commandJob s call).toOption).getD s)
    cases hcall : commandJob s call with
    | ok after => exact h.command hcall
    | error failure => exact h
  | credits call => exact h.withBooks _
  | meter ctx data =>
    unfold stepJob
    dsimp only
    split
    · exact h.withBooks _
    · exact h

theorem jobInvariant_reachable (h : Reachable stepJob NewJob s) : JobInvariant s := by
  apply invariant_reachable stepJob (I := JobInvariant) _ _ h
  · exact fun start hstart => jobInvariant_new hstart
  · exact fun current action hcurrent => hcurrent.step action

/-- In every reachable state the variants of an item are numbered from one without gaps, an item has
succeeded when all of them are there, and a job goes to review exactly with every item. -/
theorem reviewed_jobs_complete (h : Reachable stepJob NewJob s) :
    (∀ item ∈ s.items, ∃ recorded ≤ item.variantCount,
      (itemVariants item.id s.variants).map (·.variantNo) = List.range' 1 recorded ∧
        (item.state = .succeeded ↔ recorded = item.variantCount)) ∧
    (s.job.state = .waitingReview → ∀ item ∈ s.items, item.state = .succeeded) ∧
    (s.job.state ∈ [JobState.queued, .retryableFailed] → ∃ item ∈ s.items, item.state ≠ .succeeded) := by
  have hjob := jobInvariant_reachable h
  refine ⟨fun item hitem => ?_, fun hreview item hitem => ?_, fun hopen => ?_⟩
  · have hsound := hjob.sound.items item hitem
    exact ⟨_, hsound.within, hsound.numbers, hsound.complete⟩
  · have hall := hjob.reviewable hreview
    simp only [allSucceeded, Bool.and_eq_true, List.all_eq_true, decide_eq_true_eq] at hall
    exact hall.2 item hitem
  · by_contra hnone
    push Not at hnone
    have hall : allSucceeded s.items = true := by
      simpa [allSucceeded, hjob.sound.nonempty] using hnone
    exact absurd (hjob.unfinished hopen) (by rw [hall]; decide)

/-! ## Jobs without the key that the executor reads -/

/-- An unfinished item of a job without the key stops the executor before its model is asked. -/
theorem executeItems_keyless {items : List RepurposeJobItem}
    (generate : RepurposeJobItem → Except Failure (List GeneratedVariant))
    (hkeys : "model_config" ∉ s.job.requestKeys) (hopen : ∃ item ∈ items, item.state ≠ .succeeded) :
    executeItems d generate items s = .error .keyError s := by
  induction items with
  | nil => simp at hopen
  | cons item rest ih =>
    unfold executeItems executeItem
    by_cases hdone : item.state = .succeeded
    · have hrest : ∃ other ∈ rest, other.state ≠ .succeeded := by
        simpa [hdone] using hopen
      have hidle : (pure () : RepurposeM Unit) s = .ok () s := rfl
      rw [if_pos hdone, bind_run_ok hidle]
      exact ih hrest
    · have hkey : (get >>= fun s : RepurposeSession =>
          liftResult (require ("model_config" ∈ s.job.requestKeys) .keyError) >>= fun _ =>
            liftResult (requestedOutputs generate item) >>= fun outputs =>
              recordVariants d item 1 outputs) s = .error .keyError s := by
        rw [bind_run_ok (get_run s), require, if_neg hkeys]
        rfl
      rw [if_neg hdone]
      exact bind_run_error hkey _

theorem execute_keyless (hkeys : "model_config" ∉ s.job.requestKeys)
    (hopen : ∃ item ∈ s.items, item.state ≠ .succeeded) (executor : RepurposeExecutor) :
    ∃ failure, execute d executor s = .error failure s ∧ isRetryableRuntimeError failure = true := by
  unfold execute
  rw [bind_run_ok (get_run s)]
  cases hgenerate : executor.generate with
  | none => exact ⟨runtimeUnavailable, rfl, rfl⟩
  | some generate =>
    have hconfigured : ofOption runtimeUnavailable (some generate) = .ok generate := rfl
    rw [liftResult_bind_ok hconfigured]
    exact ⟨.keyError, executeItems_keyless generate hkeys hopen, rfl⟩

omit [ResultHashes] in
theorem exists_open (hsound : SessionSound s) (h : allSucceeded s.items = false) :
    ∃ item ∈ s.items, item.state ≠ .succeeded := by
  by_contra hnone
  push Not at hnone
  have hall : allSucceeded s.items = true := by
    simpa [allSucceeded, hsound.nonempty] using hnone
  rw [hall] at h
  cases h

/-- No delivery of such a job records anything, and one that meets it queued leaves it to be
retried. -/
theorem Prepared.keyless (h : JobInvariant s) (hkeys : "model_config" ∉ s.job.requestKeys)
    (hprepared : Prepared d s t) : t.variants = s.variants ∧ t.job.requestKeys = s.job.requestKeys ∧
      (s.job.state = .queued → t.job.state = .retryableFailed) := by
  have hstops : s.job.state = .queued → ∀ executor, ∃ failure,
      execute d executor (startJob s) = .error failure (startJob s) ∧
        isRetryableRuntimeError failure = true := by
    intro hqueued executor
    refine execute_keyless (s := startJob s) hkeys (exists_open (sound_startJob h.sound) ?_) executor
    rw [show (startJob s).items = s.items.map RepurposeJobItem.start from rfl,
      allSucceeded_map start_succeeded]
    exact h.unfinished (by simp [hqueued])
  cases hprepared with
  | cancelled hrequested =>
    refine ⟨rfl, rfl, fun hqueued => ?_⟩
    rw [hqueued] at hrequested
    cases hrequested
  | idle hrequested hqueued => exact ⟨rfl, rfl, fun h => absurd h hqueued⟩
  | unavailable hqueued code detail => exact ⟨rfl, rfl, fun _ => rfl⟩
  | completed executor t hqueued hexecutor hexecuted hkept hsound hall =>
    obtain ⟨failure, hstopped, -⟩ := hstops hqueued executor
    rw [hexecuted] at hstopped
    cases hstopped
  | failed executor failure t hqueued hexecuted hkept hsound husable hopen =>
    obtain ⟨other, hstopped, hretryable⟩ := hstops hqueued executor
    rw [hexecuted] at hstopped
    cases hstopped
    refine ⟨rfl, rfl, fun _ => ?_⟩
    simp only [failJob, hretryable, if_true]

/-- What every delivery and command keeps of a created job. -/
structure KeylessInvariant (s : RepurposeSession) : Prop where
  job : JobInvariant s
  keys : "model_config" ∉ s.job.requestKeys

theorem KeylessInvariant.step (h : KeylessInvariant s) (action : RepurposeAction) :
    KeylessInvariant (stepJob s action) := by
  refine ⟨h.job.step action, ?_⟩
  cases action with
  | deliver d =>
    show "model_config" ∉ (deliverJob s d).job.requestKeys
    unfold deliverJob
    split
    · rename_i after hrun
      obtain ⟨t, books, hprepared, -, rfl⟩ := prepared_of_runJob h.job hrun
      rw [show (RepurposeSession.commit { t with books := books }).job.requestKeys =
        t.job.requestKeys from rfl, (hprepared.keyless h.job h.keys).2.1]
      exact h.keys
    · exact h.keys
  | command call =>
    show "model_config" ∉ (((commandJob s call).toOption).getD s).job.requestKeys
    cases hcall : commandJob s call with
    | error failure => exact h.keys
    | ok after =>
      rcases commandJob_ok hcall with rfl | ⟨-, rfl⟩
      · exact h.keys
      · cases call.command <;> exact h.keys
  | credits call => exact h.keys
  | meter ctx data =>
    unfold stepJob
    dsimp only
    split <;> exact h.keys

omit [ResultHashes] in
theorem keylessInvariant_created (h : CreatedJob s) : KeylessInvariant s := by
  refine ⟨jobInvariant_new h.toNewJob, ?_⟩
  rw [h.keys]
  decide

end Task

section Samples

abbrev sampleResultHashes : ResultHashes where
  resultHash _ generated := some generated.plainText
  textRepr text := text

attribute [local instance] sampleResultHashes

/-- A workspace with credits and the hold of a job. -/
def heldBooks : Books := run transact {} [ (contextAt 1, .createCreditAccount),
  (contextAt 2, .grantCredits {
    bucketKind := .monthly, amount := 5000000, amount_pos := five_million_pos, sourceType := "plan"
    sourceId := "1", expiresAt := none, reasonCode := "MONTHLY" }),
  (contextAt 3, .createHold {
    subjectType := "repurpose_job", subjectId := "request", operation := "repurpose.generate"
    priceVersionId := 7, maximumAmount := 3000000, maximumAmount_pos := by decide
    idempotencyKey := "repurpose-request", expiresAt := 1000 })]

/-- A job for one item with two variants. -/
def sampleRepurposeJob : RepurposeSession where
  job := {
    id := 1
    requestedBy := 2
    budgetCurrency := "KRW"
    reservedCost := 3
    budgetReservationRef := some 300
    modelProvider := "provider"
    modelName := "model"
    modelVersion := "1"
    modelConfigHash := "config"
    requestKeys := jobCreateKeys }
  items := [{
    id := 10
    snapshot := {
      id := 20
      sourceContentHash := "content"
      templateContentHash := "template"
      claims := []
      citations := []
      constraints := {} }
    variantCount := 2 }]
  books := ⟨heldBooks, []⟩

theorem createdJob_sample : CreatedJob sampleRepurposeJob where
  state := rfl
  cost := rfl
  reserved := ⟨by decide +kernel, 30000, by decide +kernel⟩
  items := by simp [sampleRepurposeJob]
  keyed := nodup_singleton _
  pending := by simp [sampleRepurposeJob]
  variants := rfl
  usable := rfl
  books := ⟨{}, _, by simp [emptyBooks], rfl⟩
  keys := rfl

def sampleOutput (plainText : String) (actualCost : OutputCost) : GeneratedVariant where
  document := []
  plainText := plainText
  claimLineage := []
  citationLineage := []
  disclosureResult := [("passed", .bool true)]
  safetyResult := [("passed", .bool true)]
  piiResult := [("passed", .bool true)]
  modelProvenance := [("provider", "provider"), ("model", "model"), ("model_version", "1"),
    ("model_config_hash", "config")]
  rawObjectRef := none
  rawResponseHash := "raw"
  actualCost := actualCost

/-- A delivery whose model gives these outputs for every item. -/
def sampleJobDelivery (now : Nat) (outputs : List GeneratedVariant) : RepurposeDelivery where
  ctx := contextAt now
  occurredAt := now
  database := { takesVariant := fun _ => true, takesFailure := fun _ _ => true }
  executor := some { generate := some fun _ => .ok outputs }

def sampleRetry : CommandCall where
  actorId := 2
  command := .retry
  reason := none
  requestHash := "retry"
  idempotencyKey := "key"

/-- The job with a snapshot that was dumped by alias. -/
def aliasedJob : RepurposeSession :=
  { sampleRepurposeJob with job := { sampleRepurposeJob.job with requestKeys := ["model_config"] } }

theorem newJob_aliasedJob : NewJob aliasedJob :=
  { createdJob_sample.toNewJob with }

/-- After the same delivery the one job is complete and waits for its review, and the other one,
which its first delivery left to be retried, has an item to complete. -/
theorem reviewed_jobs_sample :
    (∀ item ∈ (run stepJob aliasedJob [.deliver (sampleJobDelivery 4
      [sampleOutput "first" (.finite 1), sampleOutput "second" (.finite 1)])]).items,
      item.state = .succeeded) ∧
    ∃ item ∈ (run stepJob sampleRepurposeJob [.deliver (sampleJobDelivery 4
      [sampleOutput "first" (.finite 1), sampleOutput "second" (.finite 1)])]).items,
      item.state ≠ .succeeded :=
  ⟨(reviewed_jobs_complete ⟨aliasedJob, _, newJob_aliasedJob, rfl⟩).2.1 (by decide +kernel),
    (reviewed_jobs_complete ⟨sampleRepurposeJob, _, createdJob_sample.toNewJob, rfl⟩).2.2
      (by decide +kernel)⟩

end Samples

end BlogOps.RepurposeJobs
