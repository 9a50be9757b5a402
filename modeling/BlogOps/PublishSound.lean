import BlogOps.PublishFrames
import BlogOps.PublishSystemSteps

/-!
# Rows that stay sound

What every worker run keeps of its rows, and the invariant of the whole
workspace that follows: ids are fresh, and the steps of a job keep their plan.
-/

namespace BlogOps.Publishing

open Jobs KeyedTables EffectRules TransitionRuns List

variable {ρ : Type}

/-- A job as it was ordered, without anything that its runs write on it. -/
def asOrdered (job : PublishJob) : PublishJob :=
  { apartFromProgress job with
    state := .created
    targetPublishedPostId := none
    quotaCompletedAt := none
    quotaReleasedAt := none
    resultJson := none }

/-- The identities of the steps, as flushed and in memory. -/
structure StepsSound (flushed memory : List (Uuid × Nat × SagaStepKind)) (nextId : Uuid) :
    Prop where
  keyed : Keyed Prod.fst memory
  below : ∀ key ∈ memory, key.1 < nextId
  written : flushed <+: memory
  notify : ∃ key ∈ flushed, key.2.2 = .notify

variable {flushed memory : List (Uuid × Nat × SagaStepKind)} {nextId : Uuid} {s : Session ρ}
variable {rows : JobRows} {w : World ρ}

section

variable (h : StepsSound flushed memory nextId)

include h

theorem StepsSound.mono {nextId' : Uuid} (hle : nextId ≤ nextId') : StepsSound flushed memory nextId' :=
  ⟨h.keyed, fun key hkey => (h.below key hkey).trans_le hle, h.written, h.notify⟩

theorem StepsSound.flush : StepsSound memory memory nextId := by
  obtain ⟨key, hkey, hkind⟩ := h.notify
  exact ⟨h.keyed, h.below, prefix_rfl, key, h.written.subset hkey, hkind⟩

theorem StepsSound.append (added : Nat × SagaStepKind) :
    StepsSound flushed (memory ++ [(nextId, added)]) (nextId + 1) := by
  refine ⟨h.keyed.append_row fun other hother => (h.below other hother).ne, fun key hkey => ?_,
    h.written.trans (prefix_append _ _), h.notify⟩
  rcases mem_append.mp hkey with hold | hnew
  · exact (h.below key hold).trans (Nat.lt_succ_self _)
  · rw [mem_singleton.mp hnew]
    exact Nat.lt_succ_self _

end

def stepsSound (s : Session ρ) : Prop :=
  StepsSound (s.flushed.steps.map stepKey) (s.memory.steps.map stepKey) s.nextId

structure RunFrame (s t : Session ρ) : Prop where
  ordered : asOrdered t.memory.job = asOrdered s.memory.job
  nextId : s.nextId ≤ t.nextId
  usages : t.memory.usages.map usageKey = s.memory.usages.map usageKey
  steps : stepsSound s → stepsSound t

instance : IsPreorder (Session ρ) RunFrame where
  refl _ := ⟨rfl, le_rfl, rfl, id⟩
  trans _ _ _ hst htu := ⟨htu.ordered.trans hst.ordered, hst.nextId.trans htu.nextId,
    htu.usages.trans hst.usages, fun h => htu.steps (hst.steps h)⟩

theorem RunFrame.jobId {t : Session ρ} (h : RunFrame s t) : t.memory.job.id = s.memory.job.id := by
  have hid := congrArg PublishJob.id h.ordered
  exact hid

section Frames

theorem runFrame_emit (event : SagaEvent) : Keeps RunFrame (emit event : Saga ρ Unit) :=
  keeps_modify fun _ => ⟨rfl, le_rfl, rfl, id⟩

theorem runFrame_modifyUsage (id : Uuid) (f : PublishQuotaUsage → PublishQuotaUsage)
    (hf : ∀ usage, usageKey (f usage) = usageKey usage) : Keeps RunFrame (modifyUsage id f : Saga ρ Unit) :=
  keeps_modify fun _ => ⟨rfl, le_rfl, map_updateRow (fun usage _ => hf usage) _, fun h => h⟩

theorem runFrame_modifyPost (id : Uuid) (f : PublishedPost → PublishedPost) :
    Keeps RunFrame (modifyPost id f : Saga ρ Unit) :=
  keeps_modify fun _ => ⟨rfl, le_rfl, rfl, fun h => h⟩

theorem runFrame_uuid4 : Keeps RunFrame (uuid4 : Saga ρ Uuid) := by
  intro s
  rw [ends_uuid4]
  exact ⟨rfl, Nat.le_succ _, rfl, fun h => h.mono (Nat.le_succ _)⟩

theorem runFrame_modifyStep (id : Uuid) (f : PublishSagaStep → PublishSagaStep)
    (hf : ∀ step, stepKey (f step) = stepKey step) : Keeps RunFrame (modifyStep id f : Saga ρ Unit) := by
  intro s
  rw [ends_modifyStep]
  refine ⟨rfl, le_rfl, rfl, fun h => ?_⟩
  unfold stepsSound
  dsimp only
  rw [map_updateRow fun step _ => hf step]
  exact h

theorem runFrame_addStep (kind : SagaStepKind) : Keeps RunFrame (addStep kind : Saga ρ PublishSagaStep) := by
  intro s
  unfold addStep
  rw [ends_bind, ends_getFlushed, continues_ok, ends_bind, ends_uuid4, continues_ok, ends_bind,
    ends_modifyRows, continues_ok, ends_pure]
  refine ⟨rfl, Nat.le_succ _, rfl, fun h => ?_⟩
  unfold stepsSound
  dsimp only
  rw [map_append]
  exact h.append _

theorem runFrame_endSteps (states : List StepState) (state : StepState) (finishedAt : Option Timestamp) :
    Keeps RunFrame (endSteps states state finishedAt : Saga ρ Unit) := by
  intro s
  unfold endSteps
  rw [ends_bind, ends_getFlushed, continues_ok, ends_modifyRows]
  refine ⟨rfl, le_rfl, rfl, fun h => ?_⟩
  unfold stepsSound
  dsimp only
  rw [map_map]
  have hkeys (p : PublishSagaStep → Prop) [DecidablePred p] : (stepKey ∘ fun step =>
      if p step then { step with state := state, finishedAt := finishedAt } else step) =
        stepKey := by
    funext step
    simp only [Function.comp_apply]
    split <;> rfl
  rw [hkeys]
  exact h

theorem runFrame_flush (e : Exc) : Keeps RunFrame (flush e : Saga ρ Unit) := by
  intro s
  exact ends_flush s e _ ⟨rfl, le_rfl, rfl, fun h => StepsSound.flush h⟩ (refl_of RunFrame s)

theorem runFrame_stepRules : StepRules (RunFrame (ρ := ρ)) where
  fresh := runFrame_uuid4
  step := runFrame_modifyStep
  succeeded _ := runFrame_emit _
  attempt _ := keeps_modify fun _ => ⟨rfl, le_rfl, rfl, fun h => h⟩

theorem runFrame_call {α : Type} (stepId : Uuid) (operation : ProviderOperation)
    (method : RemoteCall ρ α) : Keeps RunFrame (callProvider stepId operation method) :=
  keeps_callProvider (fun _ _ => ⟨rfl, le_rfl, rfl, fun h => h⟩) (fun _ => runFrame_emit _)
    (fun _ _ => runFrame_emit _) method

theorem runFrame_operationRules [CanonicalHash] (env : WorkerEnv ρ) (channel : Channel ρ) :
    OperationRules env channel RunFrame where
  toStepRules := runFrame_stepRules
  caught _ := runFrame_emit _
  upload _ _ := runFrame_call _ _ _
  binding _ := keeps_modify fun _ => ⟨rfl, le_rfl, rfl, fun h => h⟩
  call := runFrame_call
  snapshot _ := keeps_modify fun _ => ⟨rfl, le_rfl, rfl, fun h => h⟩
  post id f _ := runFrame_modifyPost id f
  applied := keeps_applyRemote runFrame_modifyPost env
  link := keeps_linkPost runFrame_modifyPost runFrame_uuid4
    (fun _ => keeps_modify fun _ => ⟨rfl, le_rfl, rfl, fun h => h⟩) env
  target _ := keeps_modify fun _ => ⟨rfl, le_rfl, rfl, fun h => h⟩
  result _ _ := keeps_modify fun _ => ⟨rfl, le_rfl, rfl, fun h => h⟩
  complete := keeps_completeQuota (fun _ => runFrame_emit _) runFrame_modifyUsage env.now
    (keeps_modify fun _ => ⟨rfl, le_rfl, rfl, fun h => h⟩)

theorem runFrame_bookkeepingRules : BookkeepingRules (RunFrame (ρ := ρ)) where
  toStepRules := runFrame_stepRules
  endSteps := runFrame_endSteps
  notice _ := keeps_modify fun _ => ⟨rfl, le_rfl, rfl, fun h => h⟩
  auditLog _ := keeps_modify fun _ => ⟨rfl, le_rfl, rfl, fun h => h⟩
  outboxEvent _ := keeps_modify fun _ => ⟨rfl, le_rfl, rfl, fun h => h⟩
  flush := runFrame_flush

theorem asOrdered_of_apartFromProgress {job job' : PublishJob}
    (h : apartFromProgress job' = apartFromProgress job) : asOrdered job' = asOrdered job := by
  unfold asOrdered
  rw [h]

theorem runFrame_lifecycleRules (env : WorkerEnv ρ) : LifecycleRules env RunFrame where
  toBookkeepingRules := runFrame_bookkeepingRules
  addStep := runFrame_addStep
  handled _ := runFrame_emit _
  assigned _ s := by
    rw [ends_setJobState]
    exact ⟨rfl, le_rfl, rfl, fun h => h⟩
  progress f hf s := by
    rw [ends_modifyJob]
    exact ⟨asOrdered_of_apartFromProgress (hf _), le_rfl, rfl, fun h => h⟩
  release := keeps_releaseQuota (runFrame_emit _) (runFrame_emit _) runFrame_modifyUsage env.now
    (keeps_modify fun _ => ⟨rfl, le_rfl, rfl, fun h => h⟩)

theorem keeps_processPublishJob [CanonicalHash] (env : WorkerEnv ρ) (connections : List PublishingConnection)
    (policies : List PublicationPolicy) : Keeps RunFrame (processPublishJob env connections policies) :=
  (runFrame_lifecycleRules env).keeps_processPublishJob (runFrame_operationRules env) connections policies

end Frames

section Deliveries

variable [CanonicalHash]

/-- The session that a run ends in, whether it returns or raises. -/
def RunsTo (env : WorkerEnv ρ) (rows : JobRows) (w : World ρ) (s : Session ρ) : Prop :=
  (∃ result, runPublishJob env rows w = .ok result s) ∨ ∃ e, runPublishJob env rows w = .error e s

variable {env : WorkerEnv ρ}

theorem RunsTo.of_keeps {R : Session ρ → Session ρ → Prop} (h : RunsTo env rows w s)
    (hkeeps : Keeps R (processPublishJob env w.connections w.policies)) : R (openSession w rows) s := by
  have hends := hkeeps (openSession w rows)
  rcases h with ⟨result, h⟩ | ⟨e, h⟩
  · exact hends.of_ok h
  · exact hends.of_error h

theorem RunsTo.frame (h : RunsTo env rows w s) : RunFrame (openSession w rows) s :=
  h.of_keeps (keeps_processPublishJob env _ _)

/-- A delivery finds no job, commits its run, or leaves only its remote effects. -/
theorem deliver_cases {jobId : Uuid} {commits : Bool} {P : World ρ × List SagaEvent → Prop}
    (hnone : P (w, []))
    (hcommitted : ∀ rows result s, w.jobs.find? (·.job.id = jobId) = some rows →
      runPublishJob env rows w = .ok result s → P (commitSession w s, s.trace))
    (hrolledBack : ∀ rows s, w.jobs.find? (·.job.id = jobId) = some rows → RunsTo env rows w s →
      P (rollBack w s, s.trace)) : P (deliver env jobId commits w) := by
  unfold deliver
  cases hrows : w.jobs.find? (·.job.id = jobId) with
  | none => exact hnone
  | some rows =>
    dsimp only
    cases hrun : runPublishJob env rows w with
    | ok result s =>
      cases commits with
      | true => exact hcommitted rows result s hrows hrun
      | false => exact hrolledBack rows s hrows (.inl ⟨result, hrun⟩)
    | error e s => exact hrolledBack rows s hrows (.inr ⟨e, hrun⟩)

end Deliveries

def planOf (rows : JobRows) : List (Uuid × Nat × SagaStepKind) := rows.steps.map stepKey

structure SoundWorld (w : World ρ) : Prop where
  connections : Keyed Prod.fst (identities w)
  connectionsBelow : ∀ connection ∈ identities w, connection.1 < w.nextId
  jobs : Keyed (·.job.id) w.jobs
  jobsBelow : ∀ rows ∈ w.jobs, rows.job.id < w.nextId
  steps : ∀ rows ∈ w.jobs, StepsSound (planOf rows) (planOf rows) w.nextId
  usages : Keyed (·.id) w.tables.usages
  usagesBelow : ∀ usage ∈ w.tables.usages, usage.id < w.nextId

theorem SoundWorld.keyed_connections (h : SoundWorld w) : Keyed (·.id) w.connections := by
  have hkeys := h.connections
  unfold Keyed identities at hkeys
  rw [map_map] at hkeys
  exact hkeys

theorem soundWorld_empty (h : emptyWorkspace w) : SoundWorld w := by
  obtain ⟨remote, nextId, rfl⟩ := h
  constructor <;> simp [identities, Keyed]

theorem SoundWorld.aside {w' : World ρ} (h : SoundWorld w) (ha : Aside w w') : SoundWorld w' := by
  have hbelow : ∀ connection ∈ identities w', connection.1 < w'.nextId := by
    intro connection hconnection
    rcases ha.connections with heq | ⟨added, heq, hid, hlt⟩
    · rw [heq] at hconnection
      exact (h.connectionsBelow connection hconnection).trans_le ha.nextId
    · rw [heq] at hconnection
      rcases mem_append.mp hconnection with hold | hnew
      · exact (h.connectionsBelow connection hold).trans_le ha.nextId
      · rw [mem_singleton.mp hnew, hid]
        exact hlt
  have hkeyed : Keyed Prod.fst (identities w') := by
    rcases ha.connections with heq | ⟨added, heq, hid, _⟩
    · rw [heq]
      exact h.connections
    · rw [heq]
      refine h.connections.append_row fun other hother => ?_
      rw [hid]
      exact (h.connectionsBelow other hother).ne
  refine ⟨hkeyed, hbelow, ?_, ?_, ?_, ?_, ?_⟩
  · rw [ha.jobs]
    exact h.jobs
  · rw [ha.jobs]
    exact fun rows hrows => (h.jobsBelow rows hrows).trans_le ha.nextId
  · rw [ha.jobs]
    exact fun rows hrows => (h.steps rows hrows).mono ha.nextId
  · rw [ha.tables.usages]
    exact h.usages
  · rw [ha.tables.usages]
    exact fun usage husage => (h.usagesBelow usage husage).trans_le ha.nextId

/-- The workspace after its jobs were rewritten row by row, without new steps. -/
theorem SoundWorld.updateJob (h : SoundWorld w) (jobId : Uuid) {f : PublishJob → PublishJob}
    (hf : ∀ job, (f job).id = job.id) : SoundWorld (updateJob jobId f w) := by
  refine ⟨h.connections, h.connectionsBelow, h.jobs.updateRow fun rows _ => hf rows.job,
    fun rows hrows => ?_, fun rows hrows => ?_, h.usages, h.usagesBelow⟩
  · obtain ⟨old, hold, ⟨_, rfl⟩ | ⟨_, rfl⟩⟩ := mem_updateRow hrows
    · exact (hf old.job).symm ▸ h.jobsBelow old hold
    · exact h.jobsBelow _ hold
  · obtain ⟨old, hold, ⟨_, rfl⟩ | ⟨_, rfl⟩⟩ := mem_updateRow hrows
    · exact h.steps old hold
    · exact h.steps _ hold

theorem SoundWorld.prepared {order : JobOrder} {w₁ : World ρ} (h : SoundWorld w)
    (hp : Prepares order w w₁) : SoundWorld w₁ := by
  unfold Prepares at hp
  split at hp
  · cases hp with
    | opened quotaLimit hlimit hnone =>
      refine ⟨h.connections, fun c hc => (h.connectionsBelow c hc).trans (Nat.lt_succ_self _),
        h.jobs, fun rows hrows => (h.jobsBelow rows hrows).trans (Nat.lt_succ_self _),
        fun rows hrows => (h.steps rows hrows).mono (Nat.le_succ _),
        h.usages.append_row fun other hother => (h.usagesBelow other hother).ne,
        fun usage husage => ?_⟩
      rcases mem_append.mp husage with hold | hnew
      · exact (h.usagesBelow usage hold).trans (Nat.lt_succ_self _)
      · rw [mem_singleton.mp hnew]
        exact Nat.lt_succ_self _
    | added quotaLimit usage hsome hlimit =>
      refine ⟨h.connections, h.connectionsBelow, h.jobs, h.jobsBelow, h.steps,
        h.usages.updateRow fun _ _ => rfl, fun other hother => ?_⟩
      obtain ⟨old, hold, ⟨_, rfl⟩ | ⟨_, rfl⟩⟩ := mem_updateRow hother
      · exact h.usagesBelow old hold
      · exact h.usagesBelow _ hold
  · rw [hp]
    exact h

theorem stepsSound_initial (firstId : Nat) (operation : PublishOperation) {nextId : Nat}
    (hnext : firstId + (initialSteps firstId operation).length ≤ nextId) :
    StepsSound ((initialSteps firstId operation).map stepKey)
      ((initialSteps firstId operation).map stepKey) nextId := by
  refine ⟨?_, ?_, prefix_rfl, ?_⟩
  · cases operation <;> simp [Keyed, initialSteps, initialStepKinds, stepKey]
  · intro key hkey
    obtain ⟨step, hstep, rfl⟩ := mem_map.mp hkey
    obtain ⟨index, hindex, rfl⟩ := mem_mapIdx.mp hstep
    rw [initialSteps, length_mapIdx] at hnext
    exact (Nat.add_lt_add_left hindex firstId).trans_le hnext
  · cases operation <;> simp [initialSteps, initialStepKinds, stepKey]

theorem SoundWorld.inserted [CanonicalHash] (h : SoundWorld w) (env : RequestEnv)
    (order : JobOrder) : SoundWorld (insertPublishJob env order w) := by
  have hnext : w.nextId + 1 + (initialSteps (w.nextId + 1) order.operation).length ≤
      (insertPublishJob env order w).nextId := Nat.le_add_right _ _
  have hlt : w.nextId < (insertPublishJob env order w).nextId :=
    (Nat.lt_succ_self _).trans_le ((Nat.le_add_right _ _).trans hnext)
  refine ⟨h.connections, fun connection hconnection => ?_, ?_, fun rows hrows => ?_,
    fun rows hrows => ?_, h.usages, fun usage husage => ?_⟩
  · exact (h.connectionsBelow connection hconnection).trans hlt
  · exact h.jobs.append_row fun other hother => (h.jobsBelow other hother).ne
  · rcases mem_append.mp hrows with hold | hnew
    · exact (h.jobsBelow rows hold).trans hlt
    · rw [mem_singleton.mp hnew]
      exact hlt
  · rcases mem_append.mp hrows with hold | hnew
    · exact (h.steps rows hold).mono hlt.le
    · rw [mem_singleton.mp hnew]
      exact stepsSound_initial _ _ hnext
  · exact (h.usagesBelow usage husage).trans hlt

theorem SoundWorld.rolledBack (h : SoundWorld w) (hnext : w.nextId ≤ s.nextId) : SoundWorld (rollBack w s) :=
  ⟨h.connections, fun c hc => (h.connectionsBelow c hc).trans_le hnext, h.jobs,
    fun rows hrows => (h.jobsBelow rows hrows).trans_le hnext,
    fun rows hrows => (h.steps rows hrows).mono hnext, h.usages,
    fun usage husage => (h.usagesBelow usage husage).trans_le hnext⟩

theorem SoundWorld.committed (h : SoundWorld w) (hrows : rows ∈ w.jobs)
    (hframe : RunFrame (openSession w rows) s) : SoundWorld (commitSession w s) := by
  have hid : s.memory.job.id = rows.job.id := hframe.jobId
  have hsteps : stepsSound s := hframe.steps (h.steps rows hrows)
  have husages : s.memory.usages.map (·.id) = w.tables.usages.map (·.id) := by
    have hkeys := congrArg (List.map fun usage : PublishQuotaUsage => usage.id) hframe.usages
    rw [map_map, map_map] at hkeys
    exact hkeys
  refine ⟨h.connections, fun connection hconnection => ?_, h.jobs.updateRow fun _ h => h.symm,
    fun other hother => ?_, fun other hother => ?_, ?_, fun usage husage => ?_⟩
  · exact (h.connectionsBelow connection hconnection).trans_le hframe.nextId
  · obtain ⟨old, hold, ⟨hkey, rfl⟩ | ⟨_, rfl⟩⟩ := mem_updateRow hother
    · exact hkey ▸ (h.jobsBelow old hold).trans_le hframe.nextId
    · exact (h.jobsBelow _ hold).trans_le hframe.nextId
  · obtain ⟨old, hold, ⟨_, rfl⟩ | ⟨_, rfl⟩⟩ := mem_updateRow hother
    · exact hsteps.flush
    · exact (h.steps _ hold).mono hframe.nextId
  · unfold Keyed commitSession
    dsimp only
    rw [husages]
    exact h.usages
  · have hmem : usage.id ∈ w.tables.usages.map (·.id) := husages ▸ mem_map_of_mem husage
    obtain ⟨old, hold, heq⟩ := mem_map.mp hmem
    exact heq ▸ (h.usagesBelow old hold).trans_le hframe.nextId

section Deliveries

variable [CanonicalHash]

theorem SoundWorld.delivered (h : SoundWorld w) (env : WorkerEnv ρ) (jobId : Uuid)
    (commits : Bool) : SoundWorld (deliver env jobId commits w).1 := by
  refine deliver_cases (P := fun result => SoundWorld result.1) h ?_ ?_
  · intro rows result s hrows hrun
    have hto : RunsTo env rows w s := .inl ⟨result, hrun⟩
    exact h.committed (mem_of_find?_eq_some hrows) hto.frame
  · intro rows s _ hto
    exact h.rolledBack hto.frame.nextId

theorem soundWorld_step (w : World ρ) (a : Action ρ) (h : SoundWorld w) : SoundWorld (step w a) := by
  have heffect := perform_effect h.keyed_connections a
  unfold step
  generalize perform w a = result at heffect
  obtain ⟨w', emitted⟩ := result
  cases heffect with
  | aside ha => exact h.aside ha
  | queued env order w₁ hsound hprepared => exact (h.prepared hprepared).inserted env order
  | cancelRequested env jobId data rows hrows hallowed =>
    have hupdated := h.updateJob jobId (f := requestCancellation env.now data.reason) fun _ => rfl
    exact ⟨hupdated.connections, hupdated.connectionsBelow, hupdated.jobs, hupdated.jobsBelow,
      hupdated.steps, hupdated.usages, hupdated.usagesBelow⟩
  | retried env jobId data rows hrows hallowed =>
    have hupdated := h.updateJob jobId (f := scheduleRetry data.reason) fun _ => rfl
    exact ⟨hupdated.connections, hupdated.connectionsBelow, hupdated.jobs, hupdated.jobsBelow,
      hupdated.steps, hupdated.usages, hupdated.usagesBelow⟩
  | delivered env jobId commits => exact h.delivered env jobId commits

end Deliveries

end BlogOps.Publishing
