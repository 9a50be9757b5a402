import BlogOps.ConnectionJobs

/-!
# Runs of connection jobs

What a run keeps of its rows, and how the answers of the secret store and of
the provider decide how it ends.
-/

namespace BlogOps.Publishing

open Jobs EffectRules

variable {ρ α : Type}

/-- The tables of publishing are as they were. -/
structure SameTables (before after : Tables) : Prop where
  posts : after.posts = before.posts
  snapshots : after.snapshots = before.snapshots
  bindings : after.bindings = before.bindings
  usages : after.usages = before.usages

theorem SameTables.refl (tables : Tables) : SameTables tables tables := ⟨rfl, rfl, rfl, rfl⟩

theorem SameTables.trans {a b c : Tables} (hab : SameTables a b) (hbc : SameTables b c) : SameTables a c :=
  ⟨hbc.posts.trans hab.posts, hbc.snapshots.trans hab.snapshots,
    hbc.bindings.trans hab.bindings, hbc.usages.trans hab.usages⟩

def connectionKey (connection : PublishingConnection) : Uuid × PublishingProvider :=
  (connection.id, connection.provider)

structure ConnectionFrame (s t : ConnectionSession ρ) : Prop where
  tables : SameTables s.tables t.tables
  nextId : s.nextId ≤ t.nextId
  connection : connectionKey t.connection = connectionKey s.connection
  job : t.job.id = s.job.id

instance : IsPreorder (ConnectionSession ρ) ConnectionFrame where
  refl _ := ⟨.refl _, le_rfl, rfl, rfl⟩
  trans _ _ _ hst htu := ⟨hst.tables.trans htu.tables, hst.nextId.trans htu.nextId,
    htu.connection.trans hst.connection, htu.job.trans hst.job⟩

section Frames

theorem keeps_modifyConnection {f : PublishingConnection → PublishingConnection}
    (hf : ∀ connection, connectionKey (f connection) = connectionKey connection) :
    Keeps ConnectionFrame (modifyConnection f : ConnectionRun ρ Unit) :=
  keeps_modify fun s => ⟨.refl _, le_rfl, hf s.connection, rfl⟩

theorem keeps_modifyConnectionJob {f : PublishingConnectionJob → PublishingConnectionJob}
    (hf : ∀ job, (f job).id = job.id) :
    Keeps ConnectionFrame (modifyConnectionJob f : ConnectionRun ρ Unit) :=
  keeps_modify fun s => ⟨.refl _, le_rfl, rfl, hf s.job⟩

theorem keeps_connectionAudit (action : String) :
    Keeps ConnectionFrame (connectionAudit action : ConnectionRun ρ Unit) :=
  keeps_modify fun _ => ⟨⟨rfl, rfl, rfl, rfl⟩, le_rfl, rfl, rfl⟩

theorem keeps_notifyOwner (now : Timestamp) (kind : String) :
    Keeps ConnectionFrame (notifyOwner now kind : ConnectionRun ρ Unit) :=
  keeps_modify fun _ => ⟨⟨rfl, rfl, rfl, rfl⟩, Nat.le_succ _, rfl, rfl⟩

theorem keeps_orFail (result : Except Exc α) : Keeps ConnectionFrame (orFail result : ConnectionRun ρ α) := by
  cases result with
  | ok value => exact keeps_pure value
  | error e => exact keeps_throw e

theorem keeps_askProvider (method : RemoteCall ρ α) : Keeps ConnectionFrame (askProvider method) := by
  intro s
  unfold askProvider
  rw [ends_bind, ends_get, continues_ok, ends_bind, ends_set, continues_ok]
  refine (keeps_orFail _ _).mono fun _ t ht => ?_
  exact ⟨ht.tables, ht.nextId, ht.connection, ht.job⟩

variable (env : ConnectionEnv ρ)

theorem keeps_credentialWarning (limit : Option Timestamp) :
    Keeps ConnectionFrame (credentialWarning env limit) := by
  unfold credentialWarning
  refine keeps_bind keeps_get fun s => ?_
  cases limit with
  | none => exact keeps_modifyConnection fun _ => rfl
  | some limit =>
    refine keeps_ite ?_ (keeps_pure _)
    refine keeps_bind (keeps_notifyOwner _ _) fun _ => ?_
    exact keeps_modifyConnection fun _ => rfl

theorem keeps_applyDiagnostic [CanonicalHash] (env : ConnectionEnv ρ) (limit : Option Timestamp)
    (diagnostic : ProviderDiagnostic) : Keeps ConnectionFrame (applyDiagnostic env limit diagnostic) := by
  unfold applyDiagnostic
  refine keeps_bind keeps_get fun s => ?_
  refine keeps_bind (keeps_modifyConnectionJob fun _ => rfl) fun _ => ?_
  refine keeps_bind (keeps_modifyConnection fun _ => rfl) fun _ => ?_
  refine keeps_bind (keeps_credentialWarning env limit) fun _ => ?_
  exact keeps_modifyConnection fun _ => rfl

theorem keeps_disconnect : Keeps ConnectionFrame (disconnect env) := by
  unfold disconnect
  refine keeps_bind keeps_get fun s => ?_
  refine keeps_bind (keeps_orFail _) fun _ => ?_
  refine keeps_bind (keeps_modifyConnection fun _ => rfl) fun _ => ?_
  exact keeps_modifyConnectionJob fun _ => rfl

theorem keeps_diagnose [CanonicalHash] (env : ConnectionEnv ρ) (operation : ConnectionOperation) :
    Keeps ConnectionFrame (diagnose env operation) := by
  unfold diagnose
  refine keeps_bind keeps_get fun s => ?_
  refine keeps_bind (keeps_orFail _) fun provider => ?_
  refine keeps_bind (keeps_orFail _) fun secret => ?_
  refine keeps_bind (keeps_orFail _) fun limit => ?_
  refine keeps_bind (keeps_modifyConnection fun _ => rfl) fun _ => ?_
  refine keeps_ite (keeps_throw _) ?_
  refine keeps_bind (keeps_askProvider _) fun call => ?_
  exact keeps_applyDiagnostic env limit call.value

theorem keeps_operateConnection [CanonicalHash] (env : ConnectionEnv ρ) :
    Keeps ConnectionFrame (operateConnection env) := by
  unfold operateConnection runConnectionOperation
  refine keeps_bind keeps_get fun s => ?_
  refine keeps_bind (keeps_ite (keeps_disconnect env) (keeps_diagnose env _)) fun _ => ?_
  refine keeps_bind (keeps_modifyConnectionJob fun _ => rfl) fun _ => ?_
  exact keeps_connectionAudit _

theorem keeps_connectionJobFailed (e : Exc) : Keeps ConnectionFrame (connectionJobFailed env e) := by
  cases e with
  | provider failure =>
    unfold connectionJobFailed
    refine keeps_bind (keeps_modifyConnectionJob fun _ => rfl) fun _ => ?_
    refine keeps_bind (keeps_modifyConnection fun _ => rfl) fun _ => ?_
    refine keeps_bind keeps_get fun s => ?_
    refine keeps_ite ?_ ?_
    · exact keeps_bind (keeps_modifyConnectionJob fun _ => rfl) fun _ => keeps_connectionAudit _
    · exact keeps_bind (keeps_modifyConnectionJob fun _ => rfl) fun _ => keeps_connectionAudit _
  | app error =>
    unfold connectionJobFailed
    refine keeps_bind (keeps_modifyConnectionJob fun _ => rfl) fun _ => ?_
    refine keeps_bind (keeps_modifyConnection fun _ => rfl) fun _ => ?_
    exact keeps_connectionAudit _
  | uncaught => exact keeps_throw _

theorem keeps_runConnectionJob [CanonicalHash] (env : ConnectionEnv ρ) :
    Keeps ConnectionFrame (runConnectionJob env) := by
  unfold runConnectionJob
  refine keeps_bind keeps_get fun s => ?_
  refine keeps_bind (keeps_modifyConnectionJob fun _ => rfl) fun _ => ?_
  refine keeps_bind (keeps_tryCatch (keeps_operateConnection env) (keeps_connectionJobFailed env)) fun _ => ?_
  refine keeps_bind keeps_get fun t => ?_
  exact keeps_ite (keeps_notifyOwner _ _) (keeps_pure _)

end Frames

variable (env : ConnectionEnv ρ)

/-- What the secret store and the provider answer to a connection job. -/
def connectionAnswer (connection : PublishingConnection) (operation : ConnectionOperation)
    (remote : ρ) : Except Exc Unit :=
  if operation = .disconnect then env.revokeSecret connection.credentialSecretRef
  else do
    let provider ← (env.requireProvider connection.provider connection.officialContract).mapError Exc.app
    let secret ← secretFor env operation connection.credentialSecretRef
    let limit ← expiresAt env.fromIsoFormat secret
    if expiredBy limit env.now then .error (.provider credentialExpired)
    else ((diagnosticMethod provider operation (connectionContext connection) secret)
      remote).1.map fun _ => ()

theorem bind_ok_left {β : Type} (a : α) (f : α → Except Exc β) : (Except.ok a >>= f) = f a := rfl

theorem diagnosedState_ne_disconnected (apiExpired credentialExpired criticalFailed : Bool) :
    diagnosedState apiExpired credentialExpired criticalFailed ≠ .disconnected := by
  cases apiExpired <;> cases credentialExpired <;> cases criticalFailed <;> decide

theorem ends_modifyConnection (f : PublishingConnection → PublishingConnection)
    (s : ConnectionSession ρ) (Q : Except Exc Unit → ConnectionSession ρ → Prop) :
    Ends (modifyConnection f) s Q ↔ Q (.ok ()) { s with connection := f s.connection } := Iff.rfl

theorem ends_modifyConnectionJob (f : PublishingConnectionJob → PublishingConnectionJob)
    (s : ConnectionSession ρ) (Q : Except Exc Unit → ConnectionSession ρ → Prop) :
    Ends (modifyConnectionJob f) s Q ↔ Q (.ok ()) { s with job := f s.job } := Iff.rfl

theorem ends_orFail (result : Except Exc α) (s : ConnectionSession ρ)
    (Q : Except Exc α → ConnectionSession ρ → Prop) : Ends (orFail result) s Q ↔ Q result s := by
  cases result <;> rfl

theorem ends_askProvider (method : RemoteCall ρ α) (s : ConnectionSession ρ)
    (Q : Except Exc (ProviderCall α) → ConnectionSession ρ → Prop) : Ends (askProvider method) s Q ↔
      Q (method s.remote).1 { s with remote := (method s.remote).2 } := by
  unfold askProvider
  rw [ends_bind, ends_get, continues_ok, ends_bind, ends_set, continues_ok, ends_orFail]

/-- The state of a connection after a step that went through. -/
def Leaves (P : ConnectionState → Prop) (r : Except Exc Unit) (t : ConnectionSession ρ) : Prop :=
  (∃ u, r = .ok u) ∧ P t.connection.state

theorem ends_applyDiagnostic [CanonicalHash] (env : ConnectionEnv ρ) (limit : Option Timestamp)
    (diagnostic : ProviderDiagnostic) (s : ConnectionSession ρ) :
    Ends (applyDiagnostic env limit diagnostic) s (Leaves (· ≠ .disconnected)) := by
  unfold applyDiagnostic
  rw [ends_bind, ends_get, continues_ok, ends_bind, ends_modifyConnectionJob, continues_ok,
    ends_bind, ends_modifyConnection, continues_ok, ends_bind]
  have hwarn (t : ConnectionSession ρ) :
      Ends (credentialWarning env limit) t fun r _ => ∃ u, r = .ok u := by
    unfold credentialWarning
    rw [ends_bind, ends_get, continues_ok]
    cases limit with
    | none => exact ⟨(), rfl⟩
    | some limit => exact ends_ite (fun _ => ⟨(), rfl⟩) (fun _ => ⟨(), rfl⟩)
  refine (hwarn _).mono fun r t hr => ?_
  obtain ⟨u, rfl⟩ := hr
  rw [continues_ok, ends_modifyConnection]
  exact ⟨⟨(), rfl⟩, diagnosedState_ne_disconnected _ _ _⟩

theorem ends_disconnect (s : ConnectionSession ρ) : Ends (disconnect env) s fun r t =>
      r = env.revokeSecret s.connection.credentialSecretRef ∧
        (r = .ok () → t.connection.state = .disconnected) := by
  unfold disconnect
  rw [ends_bind, ends_get, continues_ok, ends_bind, ends_orFail]
  cases hrevoke : env.revokeSecret s.connection.credentialSecretRef with
  | error e => exact ⟨rfl, fun h => by cases h⟩
  | ok u => exact ⟨rfl, fun _ => rfl⟩

theorem ends_diagnose [CanonicalHash] (env : ConnectionEnv ρ) {operation : ConnectionOperation}
    (hoperation : operation ≠ .disconnect) (s : ConnectionSession ρ) :
    Ends (diagnose env operation) s fun r t =>
      r = connectionAnswer env s.connection operation s.remote ∧
        (r = .ok () → t.connection.state ≠ .disconnected) := by
  unfold diagnose connectionAnswer
  rw [if_neg hoperation, ends_bind, ends_get, continues_ok, ends_bind, ends_orFail]
  cases (env.requireProvider s.connection.provider s.connection.officialContract).mapError
      Exc.app with
  | error e => exact ⟨rfl, fun h => by cases h⟩
  | ok provider =>
    rw [continues_ok, ends_bind, ends_orFail]
    rw [bind_ok_left]
    cases secretFor env operation s.connection.credentialSecretRef with
    | error e => exact ⟨rfl, fun h => by cases h⟩
    | ok secret =>
      rw [continues_ok, ends_bind, ends_orFail, bind_ok_left]
      cases expiresAt env.fromIsoFormat secret with
      | error e => exact ⟨rfl, fun h => by cases h⟩
      | ok limit =>
        rw [continues_ok, ends_bind, ends_modifyConnection, continues_ok, bind_ok_left]
        refine ends_ite (fun hexpired => ?_) (fun hexpired => ?_)
        · rw [if_pos hexpired]
          exact ⟨rfl, fun h => by cases h⟩
        · rw [if_neg hexpired, ends_bind, ends_askProvider]
          generalize (diagnosticMethod provider operation (connectionContext s.connection) secret)
            s.remote = answer
          obtain ⟨result, remote⟩ := answer
          cases result with
          | error e => exact ⟨rfl, fun h => by cases h⟩
          | ok call =>
            rw [continues_ok]
            refine (ends_applyDiagnostic env limit call.value _).mono fun r t ht => ?_
            obtain ⟨⟨u, rfl⟩, hstate⟩ := ht
            exact ⟨rfl, fun _ => hstate⟩

theorem ends_operateConnection [CanonicalHash] (env : ConnectionEnv ρ) (s : ConnectionSession ρ) :
    Ends (operateConnection env) s fun r t =>
      r = connectionAnswer env s.connection s.job.operation s.remote ∧ (r = .ok () →
          (t.connection.state = .disconnected ↔ s.job.operation = .disconnect)) := by
  unfold operateConnection runConnectionOperation
  rw [ends_bind, ends_get, continues_ok, ends_bind]
  by_cases hoperation : s.job.operation = .disconnect
  · rw [if_pos hoperation]
    refine (ends_disconnect env s).mono fun r t ht => ?_
    have hanswer : connectionAnswer env s.connection s.job.operation s.remote = r := by
      rw [connectionAnswer, if_pos hoperation, ht.1]
    cases r with
    | error e => exact ⟨hanswer.symm, fun h => by cases h⟩
    | ok u => exact ⟨hanswer.symm, fun _ => iff_of_true (ht.2 rfl) hoperation⟩
  · rw [if_neg hoperation]
    refine (ends_diagnose env hoperation s).mono fun r t ht => ?_
    cases r with
    | error e => exact ⟨ht.1, fun h => by cases h⟩
    | ok u => exact ⟨ht.1, fun _ => iff_of_false (ht.2 rfl) hoperation⟩

theorem ends_connectionJobFailed (e : Exc) (s : ConnectionSession ρ) :
    Ends (connectionJobFailed env e) s fun r t =>
      match r with
      | .ok _ => e ≠ .uncaught ∧ t.connection.state ≠ .disconnected
      | .error e' => e = .uncaught ∧ e' = .uncaught := by
  cases e with
  | provider failure =>
    unfold connectionJobFailed failConnection
    rw [ends_bind, ends_modifyConnectionJob, continues_ok, ends_bind, ends_modifyConnection,
      continues_ok, ends_bind, ends_get, continues_ok]
    have hstate : (if failure.code = "PUBLISH_CREDENTIAL_EXPIRED" then ConnectionState.expired
        else .degraded) ≠ .disconnected := by
      split <;> decide
    exact ends_ite (fun _ => ⟨by simp, hstate⟩) (fun _ => ⟨by simp, hstate⟩)
  | app error =>
    unfold connectionJobFailed failConnection
    rw [ends_bind, ends_modifyConnectionJob, continues_ok, ends_bind, ends_modifyConnection, continues_ok]
    exact ⟨by simp, fun h => by cases h⟩
  | uncaught => exact ⟨rfl, rfl⟩

/-- A run raises exactly when the answer is an unexpected error, and leaves the
connection disconnected exactly when it disconnects it. -/
theorem ends_runConnectionJob [CanonicalHash] (env : ConnectionEnv ρ) (s : ConnectionSession ρ) :
    Ends (runConnectionJob env) s fun r t =>
      let answer := connectionAnswer env s.connection s.job.operation s.remote
      match r with
      | .ok _ => answer ≠ .error .uncaught ∧ (t.connection.state = .disconnected ↔
          s.job.operation = .disconnect ∧ answer = .ok ())
      | .error _ => answer = .error .uncaught := by
  unfold runConnectionJob
  rw [ends_bind, ends_get, continues_ok, ends_bind, ends_modifyConnectionJob, continues_ok,
    ends_bind, ends_tryCatch]
  refine (ends_operateConnection env _).mono fun r t ht => ?_
  obtain ⟨hanswer, hok⟩ := ht
  change r = connectionAnswer env s.connection s.job.operation s.remote at hanswer
  change r = .ok () → (t.connection.state = .disconnected ↔ s.job.operation = .disconnect) at hok
  have hlast (u : ConnectionSession ρ) (P : ConnectionState → Prop) (h : P u.connection.state) :
      Ends (do
        let connection := (← get).connection
        if connection.state ≠ s.connection.state then
          notifyOwner env.now "PUBLISHING_CONNECTION_STATE_CHANGED"
        else pure () : ConnectionRun ρ Unit) u (Leaves P) := by
    rw [ends_bind, ends_get, continues_ok]
    exact ends_ite (fun _ => ⟨⟨(), rfl⟩, h⟩) (fun _ => ⟨⟨(), rfl⟩, h⟩)
  cases r with
  | ok u =>
    rw [handled_ok, continues_ok]
    refine (hlast t (fun state => state = .disconnected ↔ s.job.operation = .disconnect)
      (hok rfl)).mono fun r' t' ht' => ?_
    obtain ⟨⟨_, rfl⟩, hstate⟩ := ht'
    rw [← hanswer]
    exact ⟨by simp, by rw [hstate]; simp⟩
  | error e =>
    rw [handled_error]
    refine (ends_connectionJobFailed env e t).mono fun r' t' ht' => ?_
    cases r' with
    | error e' =>
      obtain ⟨rfl, _⟩ := ht'
      exact hanswer.symm
    | ok u =>
      rw [continues_ok]
      refine (hlast t' (· ≠ .disconnected) ht'.2).mono fun r'' t'' ht'' => ?_
      obtain ⟨⟨_, rfl⟩, hstate⟩ := ht''
      rw [← hanswer]
      exact ⟨by simpa using ht'.1, iff_of_false hstate (by simp)⟩

end BlogOps.Publishing
