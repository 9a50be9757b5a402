import BlogOps.PublishRedelivery

/-!
# Settled reservations

When a finished publish job leaves its reservation of the daily quota neither
completed nor released.
-/

namespace BlogOps.Publishing

open Jobs KeyedTables EffectRules TransitionRuns

section Settlement

variable {ρ : Type} [CanonicalHash]

section Operations

variable (env : WorkerEnv ρ) (connection : PublishingConnection) (policy : PublicationPolicy)
  (channel : Channel ρ)

/-- `_update_remote` up to its test for a conflict. -/
def readForUpdate : Saga ρ (PublishReadyContent × PublishedPost × RemotePost × Bool) := do
  let ready ← resolveReady env connection policy
  succeedLocalStep env.now .validateReadiness
  let post ← targetPost
  let remote ← fetchRemote env channel post .fetchRemote
  let conflict ← checkRemoteConflict remote
  return (ready, post, remote, conflict)

/-- `_update_remote` from its test on. -/
def decideUpdate : PublishReadyContent × PublishedPost × RemotePost × Bool → Saga ρ Bool
  | (ready, post, remote, conflict) => do
    let job ← getJob
    let action := job.inputSnapshot.conflictAction.getD .abort
    if conflict ∧ action = .abort then
      raise (remoteConflictFailure "원격 게시물이 마지막 동기화 후 수정되었습니다.")
    else do
      snapshotRemote env post.id remote "BEFORE_UPDATE"
      if conflict ∧ action = .importRemote then importUpdate env post.id remote
      else writeUpdate env channel ready post remote

theorem updateRemote_eq : updateRemote env connection policy channel =
    readForUpdate env connection policy channel >>= decideUpdate env channel := by
  unfold updateRemote readForUpdate
  simp only [bind_assoc, pure_bind]
  rfl

abbrev SettledSession (s : Session ρ) : Prop := Settled s.memory.job

omit [CanonicalHash] in
theorem establishes_completeQuota (now : Timestamp) :
    Establishes (fun _ => True) SettledSession (completeQuota now : Saga ρ Unit) := by
  intro s _
  unfold completeQuota
  rw [ends_bind, ends_getJob, continues_ok]
  refine ends_ite (fun hno _ _ huses => ?_) fun _ => ends_ite (fun hdone _ _ _ => .inl hdone) fun _ =>
    ends_ite (fun hreleased => ?_) fun _ => ?_
  · rw [huses] at hno
    cases hno
  · unfold raiseQuota
    rw [ends_bind, ends_emit, continues_ok, ends_throw]
    exact fun _ hok => by cases hok
  · rw [ends_bind, ends_selectUsage, continues_ok]
    split
    · unfold raiseQuota
      rw [ends_bind, ends_emit, continues_ok, ends_throw]
      exact fun _ hok => by cases hok
    · rw [ends_bind, ends_modifyUsage, continues_ok, ends_modifyJob]
      exact fun _ _ _ => .inl rfl

omit [CanonicalHash] in
theorem establishes_completed (now : Timestamp) (incomplete : Bool) :
    Establishes (fun _ => True) SettledSession (do completeQuota now; return incomplete : Saga ρ Bool) :=
  establishes_first (establishes_completeQuota now) fun _ => keeps_pure _

theorem establishes_createRemote :
    Establishes (fun _ => True) SettledSession (createRemote env connection policy channel) := by
  unfold createRemote
  iterate 18 refine establishes_last fun _ => ?_
  exact establishes_completed _ _

theorem establishes_writeUpdate (ready : PublishReadyContent) (post : PublishedPost) (remote : RemotePost) :
    Establishes (fun _ => True) SettledSession (writeUpdate env channel ready post remote) := by
  unfold writeUpdate
  iterate 7 refine establishes_last fun _ => ?_
  exact establishes_completed _ _

theorem settled_operationRules : OperationRules env channel (Preserves (SettledSession (ρ := ρ))) where
  fresh _ h := h
  step _ _ _ := keeps_modify fun _ h => h
  succeeded _ := keeps_modify fun _ h => h
  attempt _ := keeps_modify fun _ h => h
  caught _ := keeps_modify fun _ h => h
  upload _ _ := keeps_callProvider (fun _ _ h => h) (fun _ => keeps_modify fun _ h => h)
    (fun _ _ => keeps_modify fun _ h => h) _
  binding _ := keeps_modify fun _ h => h
  call _ _ := keeps_callProvider (fun _ _ h => h) (fun _ => keeps_modify fun _ h => h)
    fun _ _ => keeps_modify fun _ h => h
  snapshot _ := keeps_modify fun _ h => h
  post _ _ _ := keeps_modify fun _ h => h
  applied := keeps_applyRemote (fun _ _ => keeps_modify fun _ h => h) env
  link := keeps_linkPost (fun _ _ => keeps_modify fun _ h => h) (fun s => (ends_uuid4 s _).mpr id)
    (fun _ => keeps_modify fun _ h => h) env
  target _ := keeps_modify fun _ h => h
  result _ _ := keeps_modify fun _ h => h
  complete := keeps_completeQuota (fun _ => keeps_modify fun _ h => h)
    (fun _ _ _ => keeps_modify fun _ h => h) env.now (keeps_modify fun _ _ _ => .inl rfl)

end Operations

variable {env : WorkerEnv ρ} {connections : List PublishingConnection}
  {policies : List PublicationPolicy} {others : List PublishJob} {s t u : Session ρ}
  {connection : PublishingConnection} {policy : PublicationPolicy} {channel : Channel ρ}

/-- The update takes over a remote post that was changed. -/
def Imports (env : WorkerEnv ρ) (connection : PublishingConnection) (policy : PublicationPolicy)
    (channel : Channel ρ) (s : Session ρ) : Prop :=
  ∃ ready post remote u, Results (readForUpdate env connection policy channel) (beginSession env s)
    (.ok (ready, post, remote, true)) u ∧
    u.memory.job.inputSnapshot.conflictAction = some .importRemote

/-- The two exits that settle no reservation find it settled. -/
structure KeepsQuota (env : WorkerEnv ρ) (connections : List PublishingConnection)
    (policies : List PublicationPolicy) (s : Session ρ) : Prop where
  released : ∀ connection policy channel failure u,
    Opens env connections policies s.memory.job connection policy channel →
    cancelling s.memory.job = true →
    Results (releaseSchedule env channel) (attemptSession s) (.error (.provider failure)) u →
    givesUp u.memory.job failure → Settled s.memory.job
  imported : ∀ connection policy channel,
    Opens env connections policies s.memory.job connection policy channel →
    cancelling s.memory.job = false → s.memory.job.operation = .update →
    Imports env connection policy channel s → Settled s.memory.job

/-- An operation that returns has completed the quota, the import of a remote post apart. -/
theorem ends_runOperation
    (himports : s.memory.job.operation = .update → Imports env connection policy channel s →
      Settled s.memory.job) :
    Ends (runOperation env connection policy channel s.memory.job.operation) (beginSession env s)
      fun r u => ∀ x, r = .ok x → Settled u.memory.job := by
  have hkept := (settled_operationRules env channel).keeps_runOperation connection policy
    s.memory.job.operation (beginSession env s)
  by_cases hsettled : Settled s.memory.job
  · exact hkept.mono fun r u hu _ _ => hu hsettled
  have hnot := fun h => mt (himports h) hsettled
  cases hoperation : s.memory.job.operation with
  | create =>
    exact establishes_createRemote env connection policy channel _ trivial
  | update =>
    change Ends (updateRemote env connection policy channel) _ _
    rw [updateRemote_eq, ends_bind]
    refine (ends_results _ _).mono fun r u hread => ?_
    cases r with
    | error e => exact fun _ hok => by cases hok
    | ok read =>
      obtain ⟨ready, post, remote, conflict⟩ := read
      unfold decideUpdate
      rw [continues_ok, ends_bind, ends_getJob, continues_ok]
      refine ends_ite (fun _ _ hok => by cases hok) fun _ => ?_
      have hwrite : Establishes (fun _ => True) SettledSession
          (writeUpdate env channel ready post remote) := establishes_writeUpdate _ _ _ _ _
      refine establishes_last (fun _ => ?_) u trivial
      rw [if_neg]
      · exact hwrite
      · rintro ⟨rfl, haction⟩
        refine hnot hoperation ⟨ready, post, remote, u, hread, ?_⟩
        cases hconflict : u.memory.job.inputSnapshot.conflictAction with
        | none => simp [hconflict] at haction
        | some action => simpa [hconflict] using haction
  | delete => exact (hsettled fun huses => by rw [hoperation] at huses; cases huses).elim
  | reconcile => exact (hsettled fun huses => by rw [hoperation] at huses; cases huses).elim
  | rollback => exact (hsettled fun huses => by rw [hoperation] at huses; cases huses).elim

/-- A finished job has settled its reservation. -/
def Accounted (job : PublishJob) : Prop := job.state ∈ endStates → Settled job

omit [CanonicalHash] in
/-- The end of a run settles no less than what came before it. -/
theorem Finishes.settled {state : JobState} (h : Finishes others state u t)
    (hordered : asOrdered t.memory.job = asOrdered u.memory.job) (hstate : state ≠ .cancelled)
    (hopen : state = .finalFailed → u.memory.job.quotaReleasedAt = none)
    (hsettled : Settled u.memory.job) : Settled t.memory.job := by
  have hoperation := congrArg PublishJob.operation hordered
  change t.memory.job.operation = u.memory.job.operation at hoperation
  intro huses
  rw [hoperation] at huses
  rw [h.completed]
  rcases h.released with heq | hmem
  · rw [heq]
    exact hsettled huses
  · have hfinal : state = .finalFailed := by simpa [hstate] using hmem
    exact .inl ((hsettled huses).resolve_right (by simp [hopen hfinal]))

theorem PublishRun.accounted {x : RunResult}
    (hrun : PublishRun env connections policies others s (.ok x) t)
    (hframe : asOrdered t.memory.job = asOrdered s.memory.job) (h : Accounted s.memory.job)
    (hopen : finished s.memory.job = false → s.memory.job.quotaReleasedAt = none)
    (hkeeps : KeepsQuota env connections policies s) : Accounted t.memory.job := by
  have hretried {v : Session ρ} (hends : Finishes others .retryableFailed v t) :
      Accounted t.memory.job := fun hended => absurd hended (by rw [hends.reached]; decide)
  cases hrun with
  | skipped => exact h
  | unstarted _ _ _ hsettled => exact fun _ => hsettled x rfl
  | refused _ _ _ hsettled => exact fun _ => hsettled x rfl
  | @cancelling connection policy channel r' u _ _ hopens hcancelling hresults hrelease hcloses =>
    cases hcloses with
    | cancelled _ hsettled => exact fun _ => hsettled x rfl
    | failed hfails =>
      obtain ⟨state, hends, ⟨rfl, -⟩ | ⟨rfl, hgives⟩⟩ := hfails.finishes
      · exact hretried hends
      · have hsettled := hkeeps.released _ _ _ _ u hopens hcancelling hresults hgives
        have hjob := hrelease.job
        refine fun _ => hends.settled (hframe.trans ?_) (by simp) (fun _ => ?_) ?_
        · rw [hjob]
          rfl
        · rw [hjob]
          exact hopen hopens.unfinished
        · rw [hjob]
          exact hsettled
  | @publishing connection policy channel r' u _ _ hopens hpublishing hresults hbody _ hcloses =>
    cases hcloses with
    | @completed incomplete _ _ hends =>
      have hsettled := (ends_runOperation (hkeeps.imported connection policy channel hopens
        hpublishing)).of_results hresults incomplete rfl
      have hordered : asOrdered u.memory.job = asOrdered s.memory.job := by
        have hjob := congrArg asOrdered hbody.job
        exact hjob
      refine fun _ => hends.settled (hframe.trans hordered.symm) ?_ (fun hfinal => ?_) hsettled
      · cases incomplete <;> simp
      · cases incomplete <;> simp at hfinal
    | failed hfails hsettled =>
      obtain ⟨state, hends, ⟨rfl, -⟩ | ⟨rfl, -⟩⟩ := hfails.finishes
      · exact hretried hends
      · exact fun _ => hsettled x rfl hends.reached
    | refused _ hsettled => exact fun _ => hsettled x rfl

/-- A delivery leaves no reservation open through the two exits that settle none. -/
def SettlesQuota (w : World ρ) : Action ρ → Prop
  | .processPublishJob env jobId _ => ∀ rows, w.jobs.find? (·.job.id = jobId) = some rows →
    KeepsQuota env w.connections w.policies (openSession w rows)
  | _ => True

structure AccountedWorld (w : World ρ) : Prop where
  sound : SoundWorld w
  quota : QuotaSound w
  accounted : ∀ rows ∈ w.jobs, Accounted rows.job

theorem accounted_step {w : World ρ} (a : Action ρ) (h : AccountedWorld w) (ha : SettlesQuota w a) :
    AccountedWorld (step w a) := by
  refine ⟨soundWorld_step w a h.sound, (quotaSound_perform h.quota h.sound a).1,
    jobs_step h.sound h.accounted a (fun _ _ _ hended => absurd hended (by simp [newPublishJob, endStates]))
      (fun _ _ _ hended => absurd hended (by simp [requestCancellation, endStates]))
      (fun _ _ _ _ _ _ _ hended => absurd hended (by simp [scheduleRetry, endStates])) ?_⟩
  rintro env jobId commits rows result s rfl hfind hrun
  have hrows := List.mem_of_find?_eq_some hfind
  have hto : RunsTo env rows w s := .inl ⟨result, hrun⟩
  exact (publishRun_of_ok h.quota h.sound hrows hrun).accounted hto.frame.ordered
    (h.accounted rows hrows) (quotaReleasedAt_of_unfinished (h.quota.released rows hrows))
    (ha rows hfind)

/-- In a run whose deliveries avoid the two exits, every finished job has settled its quota. -/
theorem no_leaked_quota {w : World ρ} (hw : emptyWorkspace w) {actions : List (Action ρ)}
    (h : Along step SettlesQuota w actions) :
    ∀ rows ∈ (run step w actions).jobs, rows.job.state ∈ endStates → Settled rows.job := by
  have hempty : AccountedWorld w := by
    refine ⟨soundWorld_empty hw, quotaSound_empty hw, ?_⟩
    obtain ⟨remote, nextId, rfl⟩ := hw
    exact fun rows hrows => by cases hrows
  exact (invariant_along step (fun w a hw ha => accounted_step a hw ha) hempty h).accounted

end Settlement

section Site

attribute [local instance] siteDigest

theorem published_accounted : emptyWorkspace emptySite ∧
    ∀ rows ∈ publishedSite.jobs, rows.job.state ∈ endStates → Settled rows.job := by
  have hrows : ((run step emptySite (siteSetup ++ [siteCreate .publish])).jobs.find?
      (·.job.id = 5)).all fun rows =>
        rows.job.operation = .create && !cancelling rows.job := by decide
  have hsetup : Along step SettlesQuota emptySite (siteSetup ++ [siteCreate .publish]) := by
    simp [siteSetup, siteCreate, SettlesQuota]
  refine ⟨⟨[], 0, rfl⟩, no_leaked_quota ⟨[], 0, rfl⟩ ((along_append step SettlesQuota emptySite
    (siteSetup ++ [siteCreate .publish]) [siteProcess siteProvider "first" 5]).mpr
    ⟨hsetup, fun rows hfind => ?_, trivial⟩)⟩
  rw [hfind, Option.all_some, Bool.and_eq_true, decide_eq_true_eq, Bool.not_eq_true'] at hrows
  constructor
  · intro _ _ _ _ _ _ hcancelling
    exact absurd (hrows.2.symm.trans hcancelling) (by simp)
  · intro _ _ _ _ _ hupdate
    exact absurd (hrows.1.symm.trans hupdate) (by simp)

end Site

end BlogOps.Publishing
