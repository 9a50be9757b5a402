import BlogOps.RepurposeDeliveries

/-!
# Retried repurposing jobs

The executor reads `model_config` of the request snapshot before it asks the model
for an item, and `create_job` stores that value under the name of its field.  So no
answer of the model is ever seen, and each delivery of a retried job fails as the
first one did.
-/

namespace BlogOps.RepurposeJobs

open Billing EffectRules Jobs KeyedTables TransitionRuns List

def outputCost (generated : GeneratedVariant) : ℚ :=
  match generated.actualCost with
  | .finite value => value
  | _ => 0

def outputCosts (outputs : List GeneratedVariant) : ℚ := (outputs.map outputCost).sum

def Priced (generated : GeneratedVariant) : Prop :=
  ∃ cost, generated.actualCost = .finite cost ∧ 0 ≤ cost

/-- The items that a delivery of the queued job is to ask the model for. -/
def askedItems (items : List RepurposeJobItem) : List RepurposeJobItem :=
  items.filter fun item => item.state ≠ .succeeded

def answered (generate : RepurposeJobItem → Except Failure (List GeneratedVariant))
    (item : RepurposeJobItem) : List GeneratedVariant :=
  (generate item).toOption.getD []

section Retry

variable [ResultHashes]

/-- As many outputs as the item has variants; each passes every check and has a cost. -/
structure GoodOutputs (job : RepurposeJob) (item : RepurposeJobItem)
    (outputs : List GeneratedVariant) : Prop where
  count : outputs.length = item.variantCount
  checked : ∀ output ∈ outputs.zipIdx 1, checkOutput job item output.2 output.1 = .ok ()
  priced : ∀ generated ∈ outputs, Priced generated

/-- The gateway answers every item of the queued job that it is asked for, with good outputs that
together fit the remaining budget. -/
structure GoodAnswers (d : RepurposeDelivery) (s : RepurposeSession)
    (generate : RepurposeJobItem → Except Failure (List GeneratedVariant)) : Prop where
  configured : ∃ executor, d.executor = some executor ∧ executor.generate = some generate
  answers : ∀ item ∈ askedItems (startJob s).items, ∃ outputs, generate item = .ok outputs ∧
    GoodOutputs s.job item outputs
  fits : s.job.actualCost + ((askedItems (startJob s).items).map fun item =>
    outputCosts (answered generate item)).sum ≤ s.job.reservedCost

/-- The job waits for its review, every item has all its variants, and the recorded ones stayed. -/
structure Finished (s t : RepurposeSession) : Prop where
  review : t.job.state = .waitingReview
  complete : ∀ item ∈ t.items, (itemVariants item.id t.variants).length = item.variantCount
  kept : s.variants <+: t.variants

/-- A delivery of the queued job is rolled back, or leaves it to be retried once more. -/
theorem KeylessInvariant.deliver {s : RepurposeSession} (h : KeylessInvariant s)
    (hqueued : s.job.state = .queued) (d : RepurposeDelivery) :
    (stepJob s (.deliver d)).job.state ∈ [JobState.queued, .retryableFailed] := by
  show (deliverJob s d).job.state ∈ _
  unfold deliverJob
  cases hrun : runJob d s with
  | error failure after => simp [hqueued]
  | ok u after =>
    obtain ⟨t, books, hprepared, -, rfl⟩ := prepared_of_runJob h.job hrun
    have hfailed : t.job.state = .retryableFailed := (hprepared.keyless h.job h.keys).2.2 hqueued
    have hstate : (RepurposeSession.commit { t with books := books }).job.state = t.job.state := rfl
    rw [hstate, hfailed]
    decide

theorem keylessInvariant_reachable {s : RepurposeSession} (h : Reachable stepJob CreatedJob s) :
    KeylessInvariant s := by
  apply invariant_reachable stepJob (I := KeylessInvariant) _ _ h
  · exact fun start hstart => keylessInvariant_created hstart
  · exact fun current action hcurrent => hcurrent.step action

/-- No created job is finished by the delivery after a command that queued it, as an accepted retry
does, whatever the gateway answers: it stays queued or is left to be retried again. -/
theorem retry_never_finishes {s retried : RepurposeSession} {call : CommandCall}
    (hreach : Reachable stepJob CreatedJob s) (hretry : commandJob s call = .ok retried)
    (haccepted : retried.job.state = .queued) (d : RepurposeDelivery) :
    ¬ Finished s (stepJob retried (.deliver d)) ∧
      (stepJob retried (.deliver d)).job.state ∈ [JobState.queued, .retryableFailed] := by
  have hretried : KeylessInvariant retried := by
    have hstep := (keylessInvariant_reachable hreach).step (.command call)
    rw [show stepJob s (.command call) = ((commandJob s call).toOption).getD s from rfl, hretry] at hstep
    exact hstep
  have hstates := hretried.deliver haccepted d
  refine ⟨fun hfinished => ?_, hstates⟩
  rw [hfinished.review] at hstates
  exact absurd hstates (by decide)

end Retry

section Samples

attribute [local instance] sampleResultHashes

variable {outputs : List GeneratedVariant}

def pricedTest (generated : GeneratedVariant) : Bool :=
  match generated.actualCost with
  | .finite value => 0 ≤ value
  | _ => false

theorem priced_of_test {generated : GeneratedVariant} (h : pricedTest generated = true) :
    Priced generated := by
  unfold pricedTest at h
  split at h
  · rename_i value hcost
    exact ⟨value, hcost, of_decide_eq_true h⟩
  · cases h

/-- The same outputs for every item. -/
theorem goodAnswers_of_test {s : RepurposeSession} {now : Nat} (hpriced : outputs.all pricedTest = true)
    (hgood : ((askedItems (startJob s).items).all fun item =>
      decide (outputs.length = item.variantCount) && (outputs.zipIdx 1).all fun output =>
        (checkOutput s.job item output.2 output.1).toOption.isSome) = true)
    (hfits : s.job.actualCost + ((askedItems (startJob s).items).map fun _ =>
      outputCosts outputs).sum ≤ s.job.reservedCost) :
    GoodAnswers (sampleJobDelivery now outputs) s fun _ => .ok outputs := by
  refine ⟨⟨_, rfl, rfl⟩, fun item hitem => ⟨outputs, rfl, ?_, fun output hout => ?_, ?_⟩, hfits⟩
  · have htest := all_eq_true.mp hgood item hitem
    simp only [Bool.and_eq_true, decide_eq_true_eq] at htest
    exact htest.1
  · have htest := all_eq_true.mp hgood item hitem
    simp only [Bool.and_eq_true] at htest
    have hchecked := all_eq_true.mp htest.2 output hout
    cases hcheck : checkOutput s.job item output.2 output.1 with
    | error failure => simp [hcheck, Except.toOption] at hchecked
    | ok u => rfl
  · exact fun generated hgenerated => priced_of_test (all_eq_true.mp hpriced _ hgenerated)

/-- Two good outputs for the item of the sample job. -/
def goodOutputs : List GeneratedVariant :=
  [sampleOutput "first" (.finite 1), sampleOutput "second" (.finite (1 / 2))]

def failedJob : RepurposeSession := stepJob sampleRepurposeJob (.deliver (sampleJobDelivery 4 goodOutputs))

def retriedJob : RepurposeSession := stepJob failedJob (.command sampleRetry)

theorem reachable_failedJob : Reachable stepJob CreatedJob failedJob :=
  ⟨sampleRepurposeJob, [.deliver (sampleJobDelivery 4 goodOutputs)], createdJob_sample, rfl⟩

theorem commandJob_retriedJob : commandJob failedJob sampleRetry = .ok retriedJob := by
  obtain ⟨after, hcall, -⟩ := ok_of_test (x := commandJob failedJob sampleRetry)
    (fun _ => true) (by decide +kernel)
  have hafter : retriedJob = after := by
    show ((commandJob failedJob sampleRetry).toOption).getD failedJob = after
    rw [hcall]
    rfl
  rw [hafter]
  exact hcall

theorem retry_never_finishes_sample : failedJob.job.state = .retryableFailed ∧
    ¬ Finished failedJob (stepJob retriedJob (.deliver (sampleJobDelivery 5 goodOutputs))) ∧
      (stepJob retriedJob (.deliver (sampleJobDelivery 5 goodOutputs))).job.state ∈
        [JobState.queued, .retryableFailed] :=
  ⟨by decide +kernel,
    retry_never_finishes reachable_failedJob commandJob_retriedJob (by decide +kernel) _⟩

/-- The gateway has good outputs for the retried job, which fails with the error of its first
delivery. -/
theorem good_answers_unasked :
    Reachable stepJob CreatedJob failedJob ∧ failedJob.job.state = .retryableFailed ∧
      commandJob failedJob sampleRetry = .ok retriedJob ∧ retriedJob.job.state = .queued ∧
      GoodAnswers (sampleJobDelivery 5 goodOutputs) retriedJob (fun _ => .ok goodOutputs) ∧
      (stepJob retriedJob (.deliver (sampleJobDelivery 5 goodOutputs))).job.errorDetail =
        some "KeyError" ∧
      ¬ Finished failedJob (stepJob retriedJob (.deliver (sampleJobDelivery 5 goodOutputs))) := by
  refine ⟨reachable_failedJob, by decide +kernel, commandJob_retriedJob, by decide +kernel,
    goodAnswers_of_test (by decide +kernel) (by decide +kernel) (by decide +kernel),
    by decide +kernel, ?_⟩
  intro hfinished
  have hagain : (stepJob retriedJob (.deliver (sampleJobDelivery 5 goodOutputs))).job.state =
      .retryableFailed := by
    decide +kernel
  rw [hfinished.review] at hagain
  cases hagain

end Samples

end BlogOps.RepurposeJobs
