import BlogOps.PublishSystemSteps

/-!
# Disconnected connections

Connection jobs run in any order, and a run does not look at the state of its
connection.  A connection stays disconnected as long as no queued job of it
but another disconnect goes through.
-/

namespace BlogOps.Publishing

open Jobs KeyedTables TransitionRuns EffectRules

variable {ρ : Type}

def connectionState (w : World ρ) (connectionId : Uuid) : Option ConnectionState :=
  (w.connections.find? (·.id = connectionId)).map (·.state)

variable {connectionId : Uuid} {w : World ρ}

section

variable {state : ConnectionState} (hstate : connectionState w connectionId = some state)

include hstate

theorem connectionState_append {w' : World ρ} {connection : PublishingConnection}
    (h : w'.connections = w.connections ++ [connection]) : connectionState w' connectionId = some state := by
  obtain ⟨found, hfound, rfl⟩ := Option.map_eq_some_iff.mp hstate
  rw [connectionState, h, List.find?_append, hfound]
  rfl

theorem connectionState_commit {t : ConnectionSession ρ} :
    connectionState (commitConnectionSession w t) connectionId =
      some (if t.connection.id = connectionId then t.connection.state else state) := by
  obtain ⟨current, hcurrent, rfl⟩ := Option.map_eq_some_iff.mp hstate
  have hid : current.id = connectionId := by simpa using List.find?_some hcurrent
  unfold connectionState commitConnectionSession
  rw [find?_updateRow (fun _ h => h.symm), hcurrent]
  simp only [Option.map_some, hid, eq_comm (a := t.connection.id)]
  split <;> rfl

end

/-- A delivery of the job would leave its connection disconnected: the
connection is another one, the job has nothing left to do, the run is rolled
back, or it disconnects once more. -/
def LeavesDisconnected (connectionId : Uuid) (env : ConnectionEnv ρ) (commits : Bool)
    (job : PublishingConnectionJob) (w : World ρ) : Prop :=
  job.connectionId = connectionId → connectionJobFinished job = false → commits = true →
    ∀ connection, w.connections.find? (·.id = connectionId) = some connection →
      let answer := connectionAnswer env connection job.operation w.remote
      answer = .error .uncaught ∨ job.operation = .disconnect ∧ answer = .ok ()

def RespectsDisconnect (connectionId : Uuid) (w : World ρ) : Action ρ → Prop
  | .processConnectionJob env jobId commits =>
    ∀ job, w.connectionJobs.find? (·.id = jobId) = some job →
      LeavesDisconnected connectionId env commits job w
  | _ => True

section Runs

variable [CanonicalHash]

theorem Queues.connections {env : RequestEnv} {w' : World ρ} (h : Queues env w w') :
    w'.connections = w.connections := by
  rcases h with rfl | ⟨order, hsound, hcreate⟩
  · rfl
  · rcases createJob_ok hsound hcreate with rfl | ⟨w₁, hprepared, rfl⟩
    · rfl
    · change w₁.connections = w.connections
      unfold Prepares at hprepared
      split at hprepared
      · cases hprepared <;> rfl
      · rw [hprepared]

theorem deliver_connections (env : WorkerEnv ρ) (jobId : Uuid) (commits : Bool) (w : World ρ) :
    (deliver env jobId commits w).1.connections = w.connections := by
  unfold deliver
  split
  · rfl
  · split
    · cases commits <;> rfl
    · rfl

/-- Only the runs of connection jobs touch a connection that is there. -/
theorem perform_connections {a : Action ρ}
    (hother : ∀ env jobId commits, a ≠ .processConnectionJob env jobId commits) :
    (step w a).connections = w.connections ∨
      ∃ connection, (step w a).connections = w.connections ++ [connection] := by
  have hrequest {result : Except Failure (World ρ)}
      (hok : ∀ w', result = .ok w' → w'.connections = w.connections) :
      (request w result).1.connections = w.connections := by
    cases result with
    | ok w' => exact hok w' rfl
    | error e => rfl
  cases a with
  | createPolicy env data =>
    refine .inl (hrequest fun w' h => ?_)
    unfold createPolicy at h
    obtain ⟨_, _, h⟩ := bind_ok h
    dsimp only at h
    split at h
    · cases h
    · cases h
      rfl
  | createConnection env data =>
    simp only [step, perform]
    cases h : createConnection env data w with
    | error e => exact .inl rfl
    | ok w' =>
      obtain ⟨connection, _, _, rfl⟩ := createConnection_ok h
      exact .inr ⟨connection, rfl⟩
  | createConnectionJob env connectionId operation data =>
    refine .inl (hrequest fun w' h => ?_)
    obtain ⟨result, hresult, rfl⟩ := map_ok h
    exact (createConnectionJob_connections hresult).1
  | scheduleMonitors env staleMinutes limit =>
    exact .inl (hrequest fun w' h => (monitorConnections_ok h).1)
  | processConnectionJob env jobId commits => exact (hother env jobId commits rfl).elim
  | createPublishJob env contentId data key =>
    exact .inl (hrequest fun w' h => (createPublishJob_queues h).connections)
  | updatePublishedPost env postId data key =>
    exact .inl (hrequest fun w' h => (updatePublishedPost_queues h).connections)
  | deletePublishedPost env postId data key =>
    exact .inl (hrequest fun w' h => (deletePublishedPost_queues h).connections)
  | reconcilePublishedPost env postId data key =>
    exact .inl (hrequest fun w' h => (reconcilePublishedPost_queues h).connections)
  | rollbackPublishedPost env postId data key =>
    exact .inl (hrequest fun w' h => (rollbackPublishedPost_queues h).connections)
  | cancelPublishJob env jobId data =>
    simp only [step, perform]
    cases h : cancelPublishJob env jobId data w with
    | error e => exact .inl rfl
    | ok result =>
      obtain ⟨rows, _, _, rfl⟩ := cancelPublishJob_ok h
      exact .inl rfl
  | retryPublishJob env jobId data =>
    simp only [step, perform]
    cases h : retryPublishJob env jobId data w with
    | error e => exact .inl rfl
    | ok result =>
      obtain ⟨rows, _, _, rfl⟩ := retryPublishJob_ok h
      exact .inl rfl
  | processPublishJob env jobId commits => exact .inl (deliver_connections env jobId commits w)
  | tamperPolicies policies => exact .inl rfl
  | changeRemote change => exact .inl rfl

/-- A delivery of a connection job keeps a disconnected connection disconnected
exactly when it respects it. -/
theorem processConnectionJob_disconnected_iff (env : ConnectionEnv ρ) (jobId : Uuid)
    (commits : Bool) (hstate : connectionState w connectionId = some .disconnected) :
    connectionState (processConnectionJob env jobId commits w) connectionId = some .disconnected ↔
      ∀ job, w.connectionJobs.find? (·.id = jobId) = some job →
        LeavesDisconnected connectionId env commits job w := by
  obtain ⟨current, hcurrent, _⟩ := Option.map_eq_some_iff.mp hstate
  unfold processConnectionJob
  cases hjob : w.connectionJobs.find? (·.id = jobId) with
  | none => exact iff_of_true hstate (by simp)
  | some job =>
    simp only [Option.some.injEq, forall_eq']
    unfold LeavesDisconnected
    by_cases hfinished : connectionJobFinished job = true
    · simp only [hfinished, if_true]
      exact iff_of_true hstate (by simp)
    simp only [hfinished, Bool.false_eq_true, if_false]
    cases hconnection : w.connections.find? (·.id = job.connectionId) with
    | none =>
      refine iff_of_true hstate fun hid => ?_
      rw [hid, hcurrent] at hconnection
      cases hconnection
    | some connection =>
      dsimp only
      have hends := ends_runConnectionJob env (openConnectionSession w connection job)
      have hframe := keeps_runConnectionJob env (openConnectionSession w connection job)
      cases hrun : runConnectionJob env (openConnectionSession w connection job) with
      | error e t =>
        refine iff_of_true hstate fun hid _ _ other hother => .inl ?_
        rw [← hid, hconnection] at hother
        cases hother
        exact hends.of_error hrun
      | ok u t =>
        cases commits with
        | false => exact iff_of_true hstate (by simp)
        | true =>
          obtain ⟨hraises, hleft⟩ := hends.of_ok hrun
          have hkey : t.connection.id = connection.id :=
            congrArg Prod.fst (hframe.of_ok hrun).connection
          have hid : connection.id = job.connectionId := by simpa using List.find?_some hconnection
          change connectionState (commitConnectionSession w t) connectionId = _ ↔ _
          rw [connectionState_commit hstate, hkey, hid]
          by_cases hsame : job.connectionId = connectionId
          · rw [hsame] at hconnection
            simp only [hsame, if_true, Option.some.injEq, hconnection, forall_const, forall_eq']
            rw [hleft]
            exact (or_iff_right hraises).symm
          · exact iff_of_true (by rw [if_neg hsame]) fun h => absurd h hsame

theorem step_disconnected_iff (w : World ρ) (a : Action ρ)
    (hstate : connectionState w connectionId = some .disconnected) :
    connectionState (step w a) connectionId = some .disconnected ↔
      RespectsDisconnect connectionId w a := by
  by_cases hprocess : ∃ env jobId commits, a = .processConnectionJob env jobId commits
  · obtain ⟨env, jobId, commits, rfl⟩ := hprocess
    exact processConnectionJob_disconnected_iff env jobId commits hstate
  · have hrespects : RespectsDisconnect connectionId w a := by
      cases a with
      | processConnectionJob env jobId commits => exact (hprocess ⟨env, jobId, commits, rfl⟩).elim
      | _ => trivial
    refine iff_of_true ?_ hrespects
    have hother : ∀ env jobId commits, a ≠ .processConnectionJob env jobId commits :=
      fun env jobId commits h => hprocess ⟨env, jobId, commits, h⟩
    rcases perform_connections hother with h | ⟨connection, h⟩
    · rw [connectionState, h]
      exact hstate
    · exact connectionState_append hstate h

/-- A disconnected connection stays disconnected through a run exactly when every
connection job that the run delivers respects it. -/
theorem stays_disconnected_iff {connectionId : Uuid} {w : World ρ} (actions : List (Action ρ))
    (hstate : connectionState w connectionId = some .disconnected) : (∀ before, before <+: actions →
        connectionState (run step w before) connectionId = some .disconnected) ↔
      Along step (RespectsDisconnect connectionId) w actions :=
  throughout_iff_along step step_disconnected_iff hstate actions

end Runs

section Site

attribute [local instance] siteDigest

/-- A diagnosis (row 4) and a disconnect (row 5) are queued, and the disconnect runs first. -/
def disconnectedSite : World Site := run step emptySite (siteSetup ++ [
    .createConnectionJob (siteRequests "") 1 .diagnose {
      expectedLockVersion := 1
      idempotencyKey := "again" },
    .createConnectionJob (siteRequests "") 1 .disconnect {
      expectedLockVersion := 1
      idempotencyKey := "disconnect" },
    .processConnectionJob siteConnectionWorker 5 true])

theorem redelivered_disconnect_stays :
    (∀ before, before <+: [.processConnectionJob siteConnectionWorker 5 true] →
        connectionState (run step disconnectedSite before) 1 = some .disconnected) ↔
      Along step (RespectsDisconnect 1) disconnectedSite
        [.processConnectionJob siteConnectionWorker 5 true] :=
  stays_disconnected_iff _ (by decide)

/-- The secret store once the credential is revoked. -/
def revokedWorker : ConnectionEnv Site :=
  { siteConnectionWorker with
    resolveSecret := fun _ => .error (.app {
      code := "PUBLISH_SECRET_REVOKED"
      message := ""
      statusCode := 409 }) }

/-- The diagnosis that was queued before the disconnect makes the connection degraded. -/
theorem queued_diagnosis_degrades :
    ¬∀ (w : World Site) (actions : List (Action Site)), Reachable step emptyWorkspace w →
      connectionState w 1 = some .disconnected →
        connectionState (run step w actions) 1 = some .disconnected := by
  intro h
  have hstays := h disconnectedSite [.processConnectionJob revokedWorker 4 true]
    ⟨emptySite, _, ⟨[], 0, rfl⟩, rfl⟩ (by decide)
  exact absurd hstays (by decide)

end Site

end BlogOps.Publishing
