import BlogOps.PublishOutcomes

/-!
# The daily publish quota

Every usage row counts the jobs that hold a reservation of its day and those
that completed one, in every committed state; the corners of the bookkeeping
are never turned.
-/

namespace BlogOps.Publishing

open Jobs KeyedTables EffectRules TransitionRuns List

variable {ρ : Type}

structure QuotaLedger (jobs : List PublishJob) (usages : List PublishQuotaUsage) : Prop where
  reserved : ∀ usage ∈ usages, usage.reservedCount = jobs.countP (holds usage)
  completed : ∀ usage ∈ usages, usage.completedCount = jobs.countP (completes usage)
  limit : ∀ usage ∈ usages, usage.reservedCount ≤ usage.quotaLimit
  days : Keyed usageDay usages
  row : ∀ job ∈ jobs, job.operation.usesQuota = true → job.quotaReleasedAt = none →
    ∃ usage ∈ usages, quotaKey job = some (usageDay usage)

/-- Only a job that ended without success has given its reservation back. -/
def releasedEnded (job : PublishJob) : Prop :=
  job.quotaReleasedAt.isSome = true → job.state ∈ [.finalFailed, .cancelled]

theorem usesQuota_of_quotaKey {job : PublishJob} {key : Uuid × String × Int}
    (h : quotaKey job = some key) : job.operation.usesQuota = true := by
  unfold quotaKey at h
  obtain ⟨channel, _, h⟩ := Option.bind_eq_some_iff.mp h
  obtain ⟨reading, _, h⟩ := Option.bind_eq_some_iff.mp h
  split at h
  · assumption
  · cases h

variable {usage : PublishQuotaUsage}

theorem holds_iff {job : PublishJob} :
    holds usage job = true ↔ quotaKey job = some (usageDay usage) ∧ job.quotaReleasedAt = none := by
  rw [holds, Bool.and_eq_true, decide_eq_true_eq, Option.isNone_iff_eq_none]

theorem holds_of_completes {job : PublishJob} (h : completes usage job = true) : holds usage job = true := by
  rw [completes, Bool.and_eq_true] at h
  exact h.1

namespace QuotaLedger

variable {jobs more others : List PublishJob} {job : PublishJob}
  {usages usages' flushed : List PublishQuotaUsage}

theorem perm (h : QuotaLedger jobs usages) (hperm : jobs.Perm more) : QuotaLedger more usages :=
  ⟨fun usage husage => hperm.countP_eq (holds usage) ▸ h.reserved usage husage,
    fun usage husage => hperm.countP_eq (completes usage) ▸ h.completed usage husage, h.limit,
    h.days, fun job hjob => h.row job (hperm.mem_iff.mpr hjob)⟩

theorem completed_le_reserved (h : QuotaLedger jobs usages) (husage : usage ∈ usages) :
    usage.completedCount ≤ usage.reservedCount := by
  rw [h.completed usage husage, h.reserved usage husage, Int.ofNat_le]
  exact countP_mono_left fun job _ => holds_of_completes

theorem balanced (h : QuotaLedger (job :: others) usages) (hids : Keyed (·.id) usages) :
    QuotaBalanced others job usages usages :=
  ⟨h.reserved, h.completed, h.limit, hids, h.days, rfl, h.row job mem_cons_self⟩

/-- The ledger once the rows and one of the jobs were rewritten in balance. -/
theorem of_balanced {old : PublishJob} (h : QuotaLedger (old :: others) usages)
    (hbalanced : QuotaBalanced others job flushed usages')
    (hkeys : usages'.map usageKey = usages.map usageKey) : QuotaLedger (job :: others) usages' := by
  refine ⟨hbalanced.reserved, hbalanced.completed, hbalanced.limit, hbalanced.days,
    fun other hother huses hopen => ?_⟩
  rcases mem_cons.mp hother with rfl | hother
  · exact hbalanced.row huses hopen
  · obtain ⟨usage, husage, hkey⟩ := h.row other (mem_cons_of_mem _ hother) huses hopen
    have hmem : usageKey usage ∈ usages'.map usageKey := hkeys ▸ mem_map_of_mem husage
    obtain ⟨new, hnew, heq⟩ := mem_map.mp hmem
    exact ⟨new, hnew, hkey.trans (congrArg some (usageDay_of_usageKey heq).symm)⟩

/-- A job that uses no quota joins the ledger without a trace. -/
theorem unreserved (h : QuotaLedger jobs usages) (hno : job.operation.usesQuota = false) :
    QuotaLedger (jobs ++ [job]) usages := by
  have hholds (usage : PublishQuotaUsage) : holds usage job = false := by
    refine Bool.eq_false_of_not_eq_true fun hholds => ?_
    rw [usesQuota_of_quotaKey (holds_iff.mp hholds).1] at hno
    cases hno
  refine ⟨fun usage husage => ?_, fun usage husage => ?_, h.limit, h.days, fun other hother huses => ?_⟩
  · rw [countP_append, countP_singleton, hholds]
    exact h.reserved usage husage
  · rw [countP_append, countP_singleton, completes, hholds]
    exact h.completed usage husage
  · rcases mem_append.mp hother with hold | hnew
    · exact h.row other hold huses
    · rw [mem_singleton.mp hnew, hno] at huses
      cases huses

variable (hopen : job.quotaReleasedAt = none) (hcompleted : job.quotaCompletedAt = none)

include hopen hcompleted

/-- The first reservation of a day opens its row. -/
theorem opened (h : QuotaLedger jobs usages) (hkey : quotaKey job = some (usageDay usage))
    (hreserved : usage.reservedCount = 1) (hzero : usage.completedCount = 0)
    (hlimit : 1 ≤ usage.quotaLimit) (hnew : ∀ other ∈ usages, usageDay other ≠ usageDay usage) :
    QuotaLedger (jobs ++ [job]) (usages ++ [usage]) := by
  have hfree : ∀ other ∈ jobs, holds usage other = false := by
    intro other hother
    refine Bool.eq_false_of_not_eq_true fun hholds => ?_
    obtain ⟨hother', hopen'⟩ := holds_iff.mp hholds
    obtain ⟨row, hrow, heq⟩ := h.row other hother (usesQuota_of_quotaKey hother') hopen'
    exact hnew row hrow (Option.some.inj (heq.symm.trans hother'))
  have hfar : ∀ other ∈ usages, holds other job = false := by
    intro other hother
    refine Bool.eq_false_of_not_eq_true fun hholds => ?_
    exact hnew other hother (Option.some.inj ((holds_iff.mp hholds).1.symm.trans hkey))
  refine ⟨fun row hrow => ?_, fun row hrow => ?_, fun row hrow => ?_, h.days.append_row hnew,
    fun other hother huses hopen' => ?_⟩
  · rw [countP_append, countP_singleton]
    rcases mem_append.mp hrow with hold | hlast
    · rw [hfar row hold]
      exact h.reserved row hold
    · rw [mem_singleton.mp hlast, hreserved, holds_iff.mpr ⟨hkey, hopen⟩,
        countP_eq_zero.mpr fun other hother => by simp [hfree other hother]]
      rfl
  · rw [countP_append, countP_singleton]
    rcases mem_append.mp hrow with hold | hlast
    · rw [completes, hfar row hold]
      exact h.completed row hold
    · rw [mem_singleton.mp hlast, hzero, completes, hcompleted, Option.isSome_none,
        Bool.and_false, countP_eq_zero.mpr fun other hother => by
          simp [completes, hfree other hother]]
      rfl
  · rcases mem_append.mp hrow with hold | hlast
    · exact h.limit row hold
    · rw [mem_singleton.mp hlast, hreserved]
      exact hlimit
  · rcases mem_append.mp hother with hold | hlast
    · obtain ⟨row, hrow, heq⟩ := h.row other hold huses hopen'
      exact ⟨row, mem_append_left _ hrow, heq⟩
    · rw [mem_singleton.mp hlast]
      exact ⟨usage, mem_append_right _ mem_cons_self, hkey⟩

/-- Every further reservation of the day counts one more on its row. -/
theorem added (h : QuotaLedger jobs usages) (hids : Keyed (·.id) usages) (husage : usage ∈ usages)
    (hkey : quotaKey job = some (usageDay usage)) (policy : PublicationPolicy) {quotaLimit : Int}
    (hlimit : usage.reservedCount < quotaLimit) :
    QuotaLedger (jobs ++ [job]) (updateRow (·.id) usage.id (reserveOne policy quotaLimit) usages) := by
  have hcases : ∀ row ∈ updateRow (·.id) usage.id (reserveOne policy quotaLimit) usages,
      row = reserveOne policy quotaLimit usage ∨ row ∈ usages ∧ usageDay row ≠ usageDay usage := by
    intro row hrow
    obtain ⟨old, hold, ⟨hid, rfl⟩ | ⟨hid, rfl⟩⟩ := mem_updateRow hrow
    · exact .inl (congrArg _ (hids.eq_of_key_eq hold husage hid))
    · refine .inr ⟨hold, fun heq => hid ?_⟩
      rw [h.days.eq_of_key_eq hold husage heq]
  have hsame : usageDay (reserveOne policy quotaLimit usage) = usageDay usage := rfl
  have hfar {row : PublishQuotaUsage} (hne : usageDay row ≠ usageDay usage) :
      holds row job = false := by
    refine Bool.eq_false_of_not_eq_true fun hholds => hne ?_
    exact Option.some.inj ((holds_iff.mp hholds).1.symm.trans hkey)
  refine ⟨fun row hrow => ?_, fun row hrow => ?_, fun row hrow => ?_,
    h.days.updateRow fun _ _ => rfl, fun other hother huses hopen' => ?_⟩
  · rw [countP_append, countP_singleton]
    rcases hcases row hrow with rfl | ⟨hmem, hne⟩
    · rw [holds_of_usageDay hsame, holds_iff.mpr ⟨hkey, hopen⟩]
      have hold := h.reserved usage husage
      simp only [reserveOne, hold, if_true]
      rfl
    · rw [hfar hne]
      exact h.reserved row hmem
  · rw [countP_append, countP_singleton]
    rcases hcases row hrow with rfl | ⟨hmem, hne⟩
    · rw [completes_of_usageDay hsame]
      rw [completes, hcompleted, Option.isSome_none, Bool.and_false]
      exact h.completed usage husage
    · rw [completes, hfar hne]
      exact h.completed row hmem
  · rcases hcases row hrow with rfl | ⟨hmem, _⟩
    · exact hlimit
    · exact h.limit row hmem
  · rcases mem_append.mp hother with hold | hlast
    · obtain ⟨row, hrow, heq⟩ := h.row other hold huses hopen'
      by_cases hid : row.id = usage.id
      · exact ⟨_, mem_updateRow_of_mem hrow hid, heq⟩
      · exact ⟨row, mem_updateRow_of_ne hrow hid, heq⟩
    · rw [mem_singleton.mp hlast]
      exact ⟨_, mem_updateRow_of_mem husage rfl, hkey⟩

end QuotaLedger

def publishJobs (w : World ρ) : List PublishJob := w.jobs.map (·.job)

def otherJobs (w : World ρ) (jobId : Uuid) : List PublishJob :=
  (w.jobs.filter fun rows => rows.job.id ≠ jobId).map (·.job)

structure QuotaSound (w : World ρ) : Prop where
  ledger : QuotaLedger (publishJobs w) w.tables.usages
  providers : ∀ usage ∈ w.tables.usages, (usage.connectionId, usage.provider) ∈ identities w
  released : ∀ rows ∈ w.jobs, releasedEnded rows.job

section World

variable {w w' : World ρ} {rows : JobRows}

theorem publishJobs_perm (hkeyed : Keyed (·.job.id) w.jobs) (hrows : rows ∈ w.jobs) :
    (publishJobs w).Perm (rows.job :: otherJobs w rows.job.id) :=
  List.Perm.map JobRows.job (hkeyed.perm_cons_filter hrows)

theorem quotaSound_empty (h : emptyWorkspace w) : QuotaSound w := by
  obtain ⟨remote, nextId, rfl⟩ := h
  refine ⟨⟨?_, ?_, ?_, ?_, ?_⟩, ?_, ?_⟩ <;> simp [publishJobs, Keyed]

section

variable (h : QuotaSound w) (hsound : SoundWorld w) (hrows : rows ∈ w.jobs)

include h hsound hrows

theorem QuotaSound.balanced : Balanced (otherJobs w rows.job.id) (openSession w rows) := by
  refine ⟨(h.ledger.perm (publishJobs_perm hsound.jobs hrows)).balanced hsound.usages, ?_⟩
  intro event hevent
  cases hevent

/-- The workspace once one job and the usage rows were rewritten in balance. -/
theorem QuotaSound.rewritten {f : JobRows → JobRows} {flushed : List PublishQuotaUsage}
    (hid : ∀ other, other.job.id = rows.job.id → (f other).job.id = rows.job.id)
    (hbalanced : QuotaBalanced (otherJobs w rows.job.id) (f rows).job flushed w'.tables.usages)
    (hreleased : releasedEnded (f rows).job) (hjobs : w'.jobs = updateRow (·.job.id) rows.job.id f w.jobs)
    (hkeys : w'.tables.usages.map usageKey = w.tables.usages.map usageKey)
    (hconnections : identities w' = identities w) : QuotaSound w' := by
  have hperm : ((f rows).job :: otherJobs w rows.job.id).Perm (publishJobs w') := by
    unfold publishJobs
    rw [hjobs]
    exact ((hsound.jobs.perm_updateRow hrows rfl hid).map (·.job)).symm
  refine ⟨?_, fun usage husage => ?_, fun other hother => ?_⟩
  · have hold := h.ledger.perm (publishJobs_perm hsound.jobs hrows)
    exact (hold.of_balanced hbalanced hkeys).perm hperm
  · have hmem : usageKey usage ∈ w.tables.usages.map usageKey := hkeys ▸ mem_map_of_mem husage
    obtain ⟨old, hold, heq⟩ := mem_map.mp hmem
    have hconnection := congrArg PublishQuotaUsage.connectionId heq
    have hprovider := congrArg PublishQuotaUsage.provider heq
    change old.connectionId = usage.connectionId at hconnection
    change old.provider = usage.provider at hprovider
    rw [hconnections, ← hconnection, ← hprovider]
    exact h.providers old hold
  · rw [hjobs] at hother
    obtain ⟨old, hold, ⟨hkey, rfl⟩ | ⟨_, rfl⟩⟩ := mem_updateRow hother
    · rw [hsound.jobs.eq_of_key_eq hold hrows hkey]
      exact hreleased
    · exact h.released _ hold

theorem QuotaSound.requested (hstate : rows.job.state ∉ [.finalFailed, .cancelled])
    {f : PublishJob → PublishJob} (hid : ∀ job, (f job).id = job.id)
    (hkey : ∀ job, quotaKey (f job) = quotaKey job) (hoperation : ∀ job, (f job).operation = job.operation)
    (hcompleted : ∀ job, (f job).quotaCompletedAt = job.quotaCompletedAt)
    (hreleased : ∀ job, (f job).quotaReleasedAt = job.quotaReleasedAt)
    (hjobs : w'.jobs = (updateJob rows.job.id f w).jobs) (husages : w'.tables.usages = w.tables.usages)
    (hconnections : identities w' = identities w) : QuotaSound w' := by
  have hbalanced : QuotaBalanced (otherJobs w rows.job.id) (f rows.job) w.tables.usages
      w'.tables.usages := by
    rw [husages]
    exact (h.balanced hsound hrows).1.of_job (hkey _) (hoperation _) (hcompleted _) (hreleased _)
  refine h.rewritten hsound hrows (f := fun other => { other with job := f other.job })
    (fun other hother => (hid other.job).trans hother) hbalanced ?_ hjobs (congrArg _ husages)
    hconnections
  intro hsome
  rw [hreleased] at hsome
  exact absurd (h.released rows hrows hsome) hstate

end

theorem QuotaSound.aside (h : QuotaSound w) (ha : Aside w w') : QuotaSound w' := by
  have hmono : ∀ connection ∈ identities w, connection ∈ identities w' := by
    intro connection hconnection
    rcases ha.connections with heq | ⟨added, heq, _, _⟩
    · exact heq ▸ hconnection
    · rw [heq]
      exact mem_append_left _ hconnection
  refine ⟨?_, ?_, ?_⟩
  · rw [publishJobs, ha.jobs, ha.tables.usages]
    exact h.ledger
  · rw [ha.tables.usages]
    exact fun usage husage => hmono _ (h.providers usage husage)
  · rw [ha.jobs]
    exact h.released

/-- The row that a reservation finds is the only one of its day. -/
theorem reservedFor_iff (h : QuotaSound w) (hsound : SoundWorld w) {connection : PublishingConnection}
    (hconnection : connection ∈ w.connections) (husage : usage ∈ w.tables.usages) (channel : String)
    (localDay : Int) : reservedFor connection channel localDay usage = true ↔
      usageDay usage = (connection.id, channel, localDay) := by
  have hprovider (hid : usage.connectionId = connection.id) :
      usage.provider = connection.provider := by
    have hmem : connectionKey connection ∈ identities w := mem_map_of_mem hconnection
    exact congrArg Prod.snd (hsound.connections.eq_of_key_eq (h.providers usage husage) hmem hid)
  constructor
  · intro hreserved
    simp only [reservedFor, Bool.and_eq_true, decide_eq_true_eq] at hreserved
    obtain ⟨⟨⟨hid, _⟩, hchannel⟩, hday⟩ := hreserved
    rw [usageDay, hid, hchannel, hday]
  · intro hday
    have hid : usage.connectionId = connection.id := congrArg Prod.fst hday
    have hchannel : usage.channel = channel := congrArg (fun key => key.2.1) hday
    have hlocal : usage.localDay = localDay := congrArg (fun key => key.2.2) hday
    simp [reservedFor, hid, hprovider hid, hchannel, hlocal]

theorem quotaKey_newPublishJob [CanonicalHash] {order : JobOrder} (horder : SoundOrder w order)
    (huses : order.operation.usesQuota = true) (env : RequestEnv) (id : Uuid) :
    quotaKey (newPublishJob env order id) =
      some (order.connection.id, order.ready.channel, order.schedule.localDay) := by
  simp [quotaKey, newPublishJob, horder.channel huses, huses, horder.day]

theorem QuotaSound.queued [CanonicalHash] (h : QuotaSound w) (hsound : SoundWorld w)
    (env : RequestEnv) {order : JobOrder} {w₁ : World ρ} (horder : SoundOrder w order)
    (hprepared : Prepares order w w₁) : QuotaSound (insertPublishJob env order w₁) := by
  have hjobs : w₁.jobs = w.jobs ∧ identities w₁ = identities w := by
    unfold Prepares at hprepared
    split at hprepared
    · cases hprepared <;> exact ⟨rfl, rfl⟩
    · rw [hprepared]
      exact ⟨rfl, rfl⟩
  have hpublish : publishJobs (insertPublishJob env order w₁) =
      publishJobs w ++ [newPublishJob env order w₁.nextId] := by
    unfold publishJobs
    rw [← hjobs.1]
    exact map_append
  have hreleased : ∀ rows ∈ (insertPublishJob env order w₁).jobs, releasedEnded rows.job := by
    intro rows hrows
    rcases mem_append.mp hrows with hold | hnew
    · exact h.released rows (hjobs.1 ▸ hold)
    · rw [mem_singleton.mp hnew]
      exact fun hsome => by cases hsome
  refine ⟨?_, fun usage husage => ?_, hreleased⟩
  · rw [hpublish]
    unfold Prepares at hprepared
    split at hprepared
    · have hkey := quotaKey_newPublishJob horder ‹_› env w₁.nextId
      cases hprepared with
      | opened quotaLimit hlimit hnone =>
        refine h.ledger.opened rfl rfl hkey rfl rfl hlimit fun other hother hday => ?_
        have hfound := find?_eq_none.mp hnone other hother
        exact hfound ((reservedFor_iff h hsound horder.connection hother _ _).mpr hday)
      | added quotaLimit usage hsome hlimit =>
        have hmem := mem_of_find?_eq_some hsome
        have hday := (reservedFor_iff h hsound horder.connection hmem _ _).mp (find?_some hsome)
        exact h.ledger.added rfl rfl hsound.usages hmem (hkey.trans (congrArg some hday.symm))
          order.policy hlimit
    · rw [hprepared]
      exact h.ledger.unreserved (Bool.eq_false_of_not_eq_true ‹_›)
  · change usage ∈ w₁.tables.usages at husage
    change _ ∈ identities w₁
    rw [hjobs.2]
    unfold Prepares at hprepared
    split at hprepared
    · cases hprepared with
      | opened quotaLimit hlimit hnone =>
        rcases mem_append.mp husage with hold | hnew
        · exact h.providers usage hold
        · rw [mem_singleton.mp hnew]
          exact mem_map_of_mem horder.connection
      | added quotaLimit found hsome hlimit =>
        obtain ⟨old, hold, ⟨_, rfl⟩ | ⟨_, rfl⟩⟩ := mem_updateRow husage
        · exact h.providers old hold
        · exact h.providers _ hold
    · rw [hprepared] at husage
      exact h.providers usage husage

end World

section Runs

variable {others : List PublishJob} {s t u : Session ρ} {w : World ρ} {env : WorkerEnv ρ}
  {rows : JobRows}

theorem quotaReleasedAt_of_unfinished {job : PublishJob} (h : releasedEnded job)
    (hunfinished : finished job = false) : job.quotaReleasedAt = none := by
  refine Option.not_isSome_iff_eq_none.mp fun hsome => ?_
  have hstate := h hsome
  simp only [mem_cons, not_mem_nil, or_false] at hstate
  rcases hstate with hstate | hstate <;> simp [finished, hstate] at hunfinished

theorem Finishes.releasedEnded {state : JobState} (h : Finishes others state u t)
    (hopen : u.memory.job.quotaReleasedAt = none) : releasedEnded t.memory.job := by
  intro hsome
  rcases h.released with heq | hstate
  · rw [heq, hopen] at hsome
    cases hsome
  · rw [h.reached]
    exact hstate

theorem Fails.balanced {failure : ProviderFailure} (h : Fails others failure u t)
    (hopen : u.memory.job.quotaReleasedAt = none) :
    Balanced others t ∧ Publishing.releasedEnded t.memory.job := by
  obtain ⟨state, hends, _⟩ := h.finishes
  exact ⟨hends.balance, hends.releasedEnded hopen⟩

theorem QuotaSound.committed (h : QuotaSound w) (hsound : SoundWorld w) (hrows : rows ∈ w.jobs)
    (hframe : RunFrame (openSession w rows) s) (hbalanced : Balanced (otherJobs w rows.job.id) s)
    (hreleased : releasedEnded s.memory.job) : QuotaSound (commitSession w s) := by
  have hid : s.memory.job.id = rows.job.id := hframe.jobId
  refine h.rewritten hsound hrows (f := fun _ => s.memory.toJobRows) (fun _ _ => hid)
    hbalanced.1 hreleased ?_ hframe.usages rfl
  unfold commitSession
  rw [hid]

variable [CanonicalHash]

theorem PublishRun.balanced {connections : List PublishingConnection}
    {policies : List PublicationPolicy} {r : Except Exc RunResult}
    (hrun : PublishRun env connections policies others s r t) (h : Balanced others s)
    (hreleased : releasedEnded s.memory.job) : Balanced others t ∧ releasedEnded t.memory.job := by
  cases hrun with
  | skipped => exact ⟨h, hreleased⟩
  | stopped => exact ⟨h, hreleased⟩
  | unstarted hunfinished _ hends =>
    exact ⟨hends.balance, hends.releasedEnded (quotaReleasedAt_of_unfinished hreleased hunfinished)⟩
  | refused hunfinished _ hends =>
    exact ⟨hends.balance, hends.releasedEnded (quotaReleasedAt_of_unfinished hreleased hunfinished)⟩
  | @cancelling _ _ _ _ u _ _ hopens _ _ hframe hcloses =>
    have hnone : u.memory.job.quotaReleasedAt = none := by
      rw [hframe.job]
      exact quotaReleasedAt_of_unfinished hreleased hopens.unfinished
    cases hcloses with
    | cancelled hends => exact ⟨hends.balance, hends.releasedEnded hnone⟩
    | failed hends => exact hends.balanced hnone
    | stopped =>
      have hattempt : Balanced others (attemptSession s) := h.of_job rfl rfl rfl
      exact ⟨hframe.balance others hattempt, fun hsome => by rw [hnone] at hsome; cases hsome⟩
  | publishing _ _ _ _ hbalance hcloses =>
    cases hcloses with
    | completed hends => exact ⟨hends.balance, hends.releasedEnded hbalance.2⟩
    | failed hends => exact hends.balanced hbalance.2
    | refused hends => exact ⟨hends.balance, hends.releasedEnded hbalance.2⟩
    | stopped => exact ⟨hbalance.1, fun hsome => by rw [hbalance.2] at hsome; cases hsome⟩

theorem ends_delivery (h : QuotaSound w) (hsound : SoundWorld w) (hrows : rows ∈ w.jobs) :
    Ends (processPublishJob env w.connections w.policies) (openSession w rows)
      (PublishRun env w.connections w.policies (otherJobs w rows.job.id) (openSession w rows)) :=
  ends_publishRun (h.balanced hsound hrows)
    (quotaReleasedAt_of_unfinished (h.released rows hrows)) (hsound.steps rows hrows)

theorem publishRun_of_ok (h : QuotaSound w) (hsound : SoundWorld w) (hrows : rows ∈ w.jobs)
    {result : RunResult} (hrun : runPublishJob env rows w = .ok result s) :
    PublishRun env w.connections w.policies (otherJobs w rows.job.id) (openSession w rows)
      (.ok result) s :=
  (ends_delivery h hsound hrows).of_ok hrun

theorem RunsTo.publishRun (hrun : RunsTo env rows w s) (h : QuotaSound w) (hsound : SoundWorld w)
    (hrows : rows ∈ w.jobs) :
    ∃ r, PublishRun env w.connections w.policies (otherJobs w rows.job.id) (openSession w rows)
      r s := by
  rcases hrun with ⟨result, hrun⟩ | ⟨e, hrun⟩
  · exact ⟨_, (ends_delivery h hsound hrows).of_ok hrun⟩
  · exact ⟨_, (ends_delivery h hsound hrows).of_error hrun⟩

theorem quotaSound_deliver (h : QuotaSound w) (hsound : SoundWorld w) (env : WorkerEnv ρ)
    (jobId : Uuid) (commits : Bool) :
    QuotaSound (deliver env jobId commits w).1 ∧ quiet (deliver env jobId commits w).2 := by
  refine deliver_cases (P := fun result => QuotaSound result.1 ∧ quiet result.2) ?_ ?_ ?_
  · exact ⟨h, fun event hevent => by cases hevent⟩
  · intro rows result s hfind hrun
    have hrows := mem_of_find?_eq_some hfind
    have hto : RunsTo env rows w s := .inl ⟨result, hrun⟩
    obtain ⟨hbalanced, hreleased⟩ := (publishRun_of_ok h hsound hrows hrun).balanced
      (h.balanced hsound hrows) (h.released rows hrows)
    exact ⟨h.committed hsound hrows hto.frame hbalanced hreleased, hbalanced.2⟩
  · intro rows s hfind hto
    have hrows := mem_of_find?_eq_some hfind
    obtain ⟨r, hrun⟩ := hto.publishRun h hsound hrows
    obtain ⟨hbalanced, _⟩ := hrun.balanced (h.balanced hsound hrows) (h.released rows hrows)
    exact ⟨⟨h.ledger, h.providers, h.released⟩, hbalanced.2⟩

/-- One action keeps the ledger of the quota, and turns no corner. -/
theorem quotaSound_perform (h : QuotaSound w) (hsound : SoundWorld w) (a : Action ρ) :
    QuotaSound (step w a) ∧ quiet (events w a) := by
  have heffect := perform_effect hsound.keyed_connections a
  unfold step events
  generalize perform w a = result at heffect
  obtain ⟨w', emitted⟩ := result
  cases heffect with
  | aside ha => exact ⟨h.aside ha, fun event hevent => by cases hevent⟩
  | queued env order w₁ horder hprepared =>
    exact ⟨h.queued hsound env horder hprepared, fun event hevent => by cases hevent⟩
  | cancelRequested env jobId data rows hrows hallowed =>
    have hid : rows.job.id = jobId := by simpa using find?_some hrows
    have hmem := state_of_cancellable hallowed
    refine ⟨h.requested hsound (mem_of_find?_eq_some hrows) (fun hstate => ?_)
      (f := requestCancellation env.now data.reason) (fun _ => rfl) (fun _ => rfl) (fun _ => rfl)
      (fun _ => rfl) (fun _ => rfl) (hid ▸ rfl) rfl rfl, fun event hevent => ?_⟩
    · simp only [mem_cons, not_mem_nil, or_false] at hmem hstate
      rcases hstate with hstate | hstate <;> simp [hstate] at hmem
    · rw [mem_singleton.mp hevent]
      rfl
  | retried env jobId data rows hrows hallowed =>
    have hid : rows.job.id = jobId := by simpa using find?_some hrows
    have hmem := state_of_retryable hallowed
    refine ⟨h.requested hsound (mem_of_find?_eq_some hrows) (fun hstate => ?_)
      (f := scheduleRetry data.reason) (fun _ => rfl) (fun _ => rfl) (fun _ => rfl)
      (fun _ => rfl) (fun _ => rfl) (hid ▸ rfl) rfl rfl, fun event hevent => ?_⟩
    · simp only [mem_cons, not_mem_nil, or_false] at hmem hstate
      rcases hstate with hstate | hstate <;> simp [hstate] at hmem
    · rw [mem_singleton.mp hevent]
      rfl
  | delivered env jobId commits => exact quotaSound_deliver h hsound env jobId commits

theorem quotaSound_reachable (h : Reachable step emptyWorkspace w) : SoundWorld w ∧ QuotaSound w :=
  invariant_reachable step (I := fun w => SoundWorld w ∧ QuotaSound w)
    (fun _ hempty => ⟨soundWorld_empty hempty, quotaSound_empty hempty⟩)
    (fun w a hw => ⟨soundWorld_step w a hw.1, (quotaSound_perform hw.2 hw.1 a).1⟩) h

/-- The counts of every usage row are those of its jobs and within its limit, and
no action ever turns a corner of the bookkeeping. -/
theorem quota_accounted (h : Reachable step emptyWorkspace w) : (∀ usage ∈ w.tables.usages,
      usage.reservedCount = w.jobs.countP (fun rows => holds usage rows.job) ∧
      usage.completedCount = w.jobs.countP (fun rows => completes usage rows.job) ∧
      usage.completedCount ≤ usage.reservedCount ∧ usage.reservedCount ≤ usage.quotaLimit) ∧
    ∀ (a : Action ρ), quiet (events w a) := by
  obtain ⟨hsound, hquota⟩ := quotaSound_reachable h
  refine ⟨fun usage husage => ⟨?_, ?_, hquota.ledger.completed_le_reserved husage,
    hquota.ledger.limit usage husage⟩, fun a => (quotaSound_perform hquota hsound a).2⟩
  · have hreserved := hquota.ledger.reserved usage husage
    rw [publishJobs, countP_map] at hreserved
    exact hreserved
  · have hcompleted := hquota.ledger.completed usage husage
    rw [publishJobs, countP_map] at hcompleted
    exact hcompleted

end Runs

section Site

attribute [local instance] siteDigest

theorem quota_accounted_site : (∀ usage ∈ publishedSite.tables.usages,
      usage.reservedCount = publishedSite.jobs.countP (fun rows => holds usage rows.job) ∧
      usage.completedCount = publishedSite.jobs.countP (fun rows => completes usage rows.job) ∧
      usage.completedCount ≤ usage.reservedCount ∧ usage.reservedCount ≤ usage.quotaLimit) ∧
    ∀ (a : Action Site), quiet (events publishedSite a) :=
  quota_accounted ⟨emptySite, _, ⟨[], 0, rfl⟩, rfl⟩

example : (publishedSite.tables.usages.map fun usage =>
    (usage.reservedCount, usage.completedCount)) = [(1, 1)] := by decide

end Site

end BlogOps.Publishing
