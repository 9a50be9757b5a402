import BlogOps.PublishSound

/-!
# The counts of the daily quota

A usage row counts the jobs that hold a reservation of its day and those of
them that completed it.  Completing and releasing the quota of the job of a
run keep both counts.
-/

namespace BlogOps.Publishing

open Jobs KeyedTables EffectRules List

variable {ρ : Type}

def usageDay (usage : PublishQuotaUsage) : Uuid × String × Int :=
  (usage.connectionId, usage.channel, usage.localDay)

/-- The day whose quota the job uses. -/
def quotaKey (job : PublishJob) : Option (Uuid × String × Int) := do
  let channel ← job.inputSnapshot.channel
  let reading ← job.scheduledLocal
  if job.operation.usesQuota then some (job.connectionId, channel, dayOf reading) else none

/-- The job has a reservation on the row that was not released. -/
def holds (usage : PublishQuotaUsage) (job : PublishJob) : Bool :=
  decide (quotaKey job = some (usageDay usage)) && job.quotaReleasedAt.isNone

/-- The job has completed its reservation on the row. -/
def completes (usage : PublishQuotaUsage) (job : PublishJob) : Bool :=
  holds usage job && job.quotaCompletedAt.isSome

structure QuotaBalanced (others : List PublishJob) (job : PublishJob)
    (flushed usages : List PublishQuotaUsage) : Prop where
  reserved : ∀ usage ∈ usages, usage.reservedCount = (job :: others).countP (holds usage)
  completed : ∀ usage ∈ usages, usage.completedCount = (job :: others).countP (completes usage)
  limit : ∀ usage ∈ usages, usage.reservedCount ≤ usage.quotaLimit
  ids : Keyed (·.id) usages
  days : Keyed usageDay usages
  written : flushed.map usageKey = usages.map usageKey
  row : job.operation.usesQuota = true → job.quotaReleasedAt = none →
    ∃ usage ∈ usages, quotaKey job = some (usageDay usage)

/-- The corners of the bookkeeping that a sound quota never turns. -/
def SagaEvent.quotaCorner : SagaEvent → Bool
  | .quotaClamped | .quotaWithheld | .quotaRaised _ => true
  | _ => false

def quiet (trace : List SagaEvent) : Prop := ∀ event ∈ trace, event.quotaCorner = false

/-- The quota of the job of a run and of the other jobs, so far without a corner. -/
def Balanced (others : List PublishJob) (s : Session ρ) : Prop :=
  QuotaBalanced others s.memory.job s.flushed.usages s.memory.usages ∧ quiet s.trace

theorem quiet_append {trace : List SagaEvent} {event : SagaEvent} (h : quiet trace)
    (hevent : event.quotaCorner = false) : quiet (trace ++ [event]) := by
  intro other hother
  rcases mem_append.mp hother with hold | hnew
  · exact h other hold
  · rw [mem_singleton.mp hnew]
    exact hevent

variable {other usage : PublishQuotaUsage}

theorem usageDay_of_usageKey (h : usageKey usage = usageKey other) : usageDay usage = usageDay other := by
  have hconnection := congrArg PublishQuotaUsage.connectionId h
  have hchannel := congrArg PublishQuotaUsage.channel h
  have hday := congrArg PublishQuotaUsage.localDay h
  exact Prod.ext hconnection (Prod.ext hchannel hday)

theorem usageId_of_usageKey (h : usageKey usage = usageKey other) : usage.id = other.id := by
  have hid := congrArg PublishQuotaUsage.id h
  exact hid

theorem holds_of_usageDay (h : usageDay usage = usageDay other) : holds usage = holds other := by
  funext job
  rw [holds, holds, h]

theorem completes_of_usageDay (h : usageDay usage = usageDay other) : completes usage = completes other := by
  funext job
  rw [completes, completes, holds_of_usageDay h]

theorem usageOf_iff {job : PublishJob} {key : Uuid × String × Int} (h : quotaKey job = some key)
    (now : Timestamp) (usage : PublishQuotaUsage) : usageOf now job usage = true ↔ usageDay usage = key := by
  unfold quotaKey at h
  obtain ⟨channel, hchannel, h⟩ := Option.bind_eq_some_iff.mp h
  obtain ⟨reading, hreading, h⟩ := Option.bind_eq_some_iff.mp h
  split at h
  · cases h
    simp [usageOf, usageDay, quotaDay, hchannel, hreading, and_assoc]
  · cases h

/-- A query that the flushed rows answer finds a row of the memory. -/
theorem selectRow_some {α κ : Type} (table : Rows → List α) (id : α → Uuid) (p : α → Bool) (key : α → κ)
    {flushed memory : Rows} (hkeys : (table flushed).map key ⊆ (table memory).map key)
    (hid : ∀ a b, key a = key b → id a = id b) (hp : ∀ a b, key a = key b → p a = p b)
    (hkeyed : Keyed id (table memory)) {row : α} (hrow : row ∈ table flushed) (hsel : p row = true) :
    ∃ found ∈ table memory, p found = true ∧
      selectRow table id p flushed memory = some found := by
  obtain ⟨old, hold⟩ := Option.isSome_iff_exists.mp (find?_isSome.mpr ⟨row, hrow, hsel⟩)
  obtain ⟨found, hfound, heq⟩ := mem_map.mp
    (hkeys (mem_map_of_mem (mem_of_find?_eq_some hold)))
  have hpfound : p found = true := (hp _ _ heq).trans (find?_some hold)
  have hsame : (table memory).find? (fun other => id other = id old) = some found := by
    have hexists : ((table memory).find? fun other => id other = id old).isSome = true :=
      find?_isSome.mpr ⟨found, hfound, decide_eq_true (hid _ _ heq)⟩
    obtain ⟨other, hother⟩ := Option.isSome_iff_exists.mp hexists
    have hotherId : id other = id old := by simpa using find?_some hother
    rw [hother, hkeyed.eq_of_key_eq (mem_of_find?_eq_some hother) hfound
      (hotherId.trans (hid _ _ heq).symm)]
  refine ⟨found, hfound, hpfound, ?_⟩
  rw [selectRow, hold]
  exact hsame

namespace QuotaBalanced

variable {others : List PublishJob} {job job' : PublishJob}
  {flushed usages : List PublishQuotaUsage}

/-- A balance only looks at the order of the job and at the times of its quota. -/
theorem of_job (h : QuotaBalanced others job flushed usages) (hkey : quotaKey job' = quotaKey job)
    (hoperation : job'.operation = job.operation) (hcompleted : job'.quotaCompletedAt = job.quotaCompletedAt)
    (hreleased : job'.quotaReleasedAt = job.quotaReleasedAt) : QuotaBalanced others job' flushed usages := by
  have hholds (usage : PublishQuotaUsage) : holds usage job' = holds usage job := by
    rw [holds, holds, hkey, hreleased]
  have hcompletes (usage : PublishQuotaUsage) : completes usage job' = completes usage job := by
    rw [completes, completes, hholds, hcompleted]
  refine ⟨fun usage husage => ?_, fun usage husage => ?_, h.limit, h.ids, h.days, h.written, ?_⟩
  · rw [countP_cons, hholds, ← countP_cons]
    exact h.reserved usage husage
  · rw [countP_cons, hcompletes, ← countP_cons]
    exact h.completed usage husage
  · rw [hkey, hoperation, hreleased]
    exact h.row

/-- The row of the job is rewritten along with the times of its quota. -/
theorem change (h : QuotaBalanced others job flushed usages) {found : PublishQuotaUsage}
    (hfound : found ∈ usages) (hday : quotaKey job = some (usageDay found))
    (hkey : quotaKey job' = quotaKey job) {f : PublishQuotaUsage → PublishQuotaUsage}
    (hf : ∀ usage, usageKey (f usage) = usageKey usage)
    (hreserved : (f found).reservedCount + (if job.quotaReleasedAt.isNone then 1 else 0) =
      found.reservedCount + if job'.quotaReleasedAt.isNone then 1 else 0)
    (hcompleted : (f found).completedCount + (if job.quotaReleasedAt.isNone &&
      job.quotaCompletedAt.isSome then 1 else 0) =
      found.completedCount + if job'.quotaReleasedAt.isNone && job'.quotaCompletedAt.isSome then 1
      else 0)
    (hlimit : (f found).reservedCount ≤ found.reservedCount) :
    QuotaBalanced others job' flushed (updateRow (·.id) found.id f usages) := by
  have hdayOf (usage : PublishQuotaUsage) : usageDay (f usage) = usageDay usage :=
    usageDay_of_usageKey (hf usage)
  have hcases : ∀ usage ∈ updateRow (·.id) found.id f usages,
      usage = f found ∨ usage ∈ usages ∧ usageDay usage ≠ usageDay found := by
    intro usage husage
    obtain ⟨old, hold, ⟨hid, rfl⟩ | ⟨hid, rfl⟩⟩ := mem_updateRow husage
    · exact .inl (congrArg f (h.ids.eq_of_key_eq hold hfound hid))
    · refine .inr ⟨hold, fun heq => hid ?_⟩
      rw [h.days.eq_of_key_eq hold hfound heq]
  have hfar {usage : PublishQuotaUsage} (hne : usageDay usage ≠ usageDay found)
      (hday' : quotaKey job' = some (usageDay found)) :
      holds usage job' = false ∧ holds usage job = false := by
    have hno : ¬(some (usageDay found) = some (usageDay usage)) :=
      fun heq => hne (Option.some.inj heq).symm
    rw [holds, holds, hday', hday, decide_eq_false hno]
    exact ⟨rfl, rfl⟩
  have hday' := hkey.trans hday
  refine ⟨fun usage husage => ?_, fun usage husage => ?_, fun usage husage => ?_,
    h.ids.updateRow fun usage _ => usageId_of_usageKey (hf usage),
    h.days.updateRow fun usage _ => hdayOf usage,
    h.written.trans (map_updateRow (fun usage _ => hf usage) _).symm, fun _ _ => ?_⟩
  · rcases hcases usage husage with rfl | ⟨hmem, hne⟩
    · have hold := h.reserved found hfound
      rw [holds_of_usageDay (hdayOf found)]
      rw [countP_cons] at hold ⊢
      simp only [holds, hday, hday', decide_true, Bool.true_and] at hold ⊢
      split at hold <;> split <;> simp_all
    · have hold := h.reserved usage hmem
      obtain ⟨hnew, hwas⟩ := hfar hne hday'
      rw [countP_cons, hnew]
      rw [countP_cons, hwas] at hold
      exact hold
  · rcases hcases usage husage with rfl | ⟨hmem, hne⟩
    · have hold := h.completed found hfound
      rw [completes_of_usageDay (hdayOf found)]
      rw [countP_cons] at hold ⊢
      simp only [completes, holds, hday, hday', decide_true, Bool.true_and] at hold ⊢
      split at hold <;> split <;> simp_all
    · have hold := h.completed usage hmem
      obtain ⟨hnew, hwas⟩ := hfar hne hday'
      rw [countP_cons, completes, hnew, Bool.false_and]
      rw [countP_cons, completes, hwas, Bool.false_and] at hold
      exact hold
  · rcases hcases usage husage with rfl | ⟨hmem, _⟩
    · have heq := congrArg PublishQuotaUsage.quotaLimit (hf found)
      change (f found).quotaLimit = found.quotaLimit at heq
      rw [heq]
      exact hlimit.trans (h.limit found hfound)
    · exact h.limit usage hmem
  · exact ⟨f found, mem_updateRow_of_mem hfound rfl, by rw [hdayOf, hday']⟩

/-- The query of the quota functions finds the row of the job. -/
theorem selectUsage_some {s : Session ρ}
    (h : QuotaBalanced others s.memory.job s.flushed.usages s.memory.usages) (now : Timestamp)
    (huses : s.memory.job.operation.usesQuota = true) (hreleased : s.memory.job.quotaReleasedAt = none) :
    ∃ found ∈ s.memory.usages, quotaKey s.memory.job = some (usageDay found) ∧
      selectRow (·.usages) (·.id) (usageOf now s.memory.job) s.flushed s.memory = some found := by
  obtain ⟨usage, husage, hkey⟩ := h.row huses hreleased
  have hmem : usageKey usage ∈ s.flushed.usages.map usageKey :=
    h.written.symm ▸ mem_map_of_mem husage
  obtain ⟨old, hold, heq⟩ := mem_map.mp hmem
  have hsel : usageOf now s.memory.job old = true :=
    (usageOf_iff hkey now old).mpr (usageDay_of_usageKey heq)
  obtain ⟨found, hfound, hp, hselect⟩ := selectRow_some (·.usages) (·.id)
    (usageOf now s.memory.job) usageKey (fun key hkey => h.written ▸ hkey)
    (fun a b hab => usageId_of_usageKey hab)
    (fun a b hab => by
      rw [Bool.eq_iff_iff, usageOf_iff hkey, usageOf_iff hkey, usageDay_of_usageKey hab])
    h.ids hold hsel
  refine ⟨found, hfound, ?_, hselect⟩
  rw [hkey, (usageOf_iff hkey now found).mp hp]

theorem completes_le_holds (h : QuotaBalanced others job flushed usages) (husage : usage ∈ usages) :
    usage.completedCount ≤ usage.reservedCount := by
  rw [h.completed usage husage, h.reserved usage husage, Int.ofNat_le]
  refine countP_mono_left fun other _ hother => ?_
  rw [completes, Bool.and_eq_true] at hother
  exact hother.1

theorem flush (h : QuotaBalanced others job flushed usages) : QuotaBalanced others job usages usages :=
  { h with written := rfl }

end QuotaBalanced

/-- The reservation of the job is settled: completed or released. -/
def Settled (job : PublishJob) : Prop := job.operation.usesQuota = true →
    job.quotaCompletedAt.isSome = true ∨ job.quotaReleasedAt.isSome = true

section Effects

variable {others : List PublishJob} {s : Session ρ}

theorem ends_completeQuota (h : Balanced others s) (hopen : s.memory.job.quotaReleasedAt = none)
    (now : Timestamp) : Ends (completeQuota now) s fun r t => r = .ok () ∧ Balanced others t ∧
      t.memory.job.quotaReleasedAt = none ∧ Settled t.memory.job := by
  unfold completeQuota
  rw [ends_bind, ends_getJob, continues_ok]
  refine ends_ite (fun hno => ?_) (fun huses => ?_)
  · refine ⟨rfl, h, hopen, fun huses => ?_⟩
    rw [huses] at hno
    cases hno
  · rw [Bool.not_eq_true, Bool.not_eq_false'] at huses
    refine ends_ite (fun hdone => ⟨rfl, h, hopen, fun _ => .inl hdone⟩) (fun hdone => ?_)
    refine ends_ite (fun hreleased => ?_) (fun _ => ?_)
    · rw [hopen] at hreleased
      cases hreleased
    · obtain ⟨found, hfound, hday, hselect⟩ := h.1.selectUsage_some now huses hopen
      rw [ends_bind, ends_selectUsage, hselect, continues_ok, ends_bind, ends_modifyUsage,
        continues_ok, ends_modifyJob]
      refine ⟨rfl, ⟨?_, h.2⟩, hopen, fun _ => .inl rfl⟩
      refine h.1.change hfound hday ?_ (fun _ => rfl) ?_ ?_ le_rfl
      · rfl
      · rfl
      · simp [hopen, hdone]

/-- What a release may change: the counts and the time of the release. -/
def ReleaseFrame (s t : Session ρ) : Prop :=
  ∃ usages releasedAt, t = { s with memory := { s.memory with
    usages := usages
    job := { s.memory.job with quotaReleasedAt := releasedAt } } }

theorem ReleaseFrame.refl (s : Session ρ) : ReleaseFrame s s := ⟨_, _, rfl⟩

/-- A release turns no corner, and leaves the reservation settled. -/
theorem ends_releaseQuota (h : Balanced others s) (now : Timestamp) (reverseCompleted : Bool) :
    Ends (releaseQuota now reverseCompleted) s fun r t => r = .ok () ∧ Balanced others t ∧
      ReleaseFrame s t ∧ Settled t.memory.job := by
  unfold releaseQuota
  rw [ends_bind, ends_getJob, continues_ok]
  refine ends_ite (fun hno => ?_) (fun huses => ?_)
  · refine ⟨rfl, h, .refl s, fun huses => ?_⟩
    rw [huses] at hno
    cases hno
  · rw [Bool.not_eq_true, Bool.not_eq_false'] at huses
    refine ends_ite (fun hdone => ⟨rfl, h, .refl s, fun _ => .inr hdone⟩) (fun hopen => ?_)
    rw [Bool.not_eq_true, Option.isSome_eq_false_iff, Option.isNone_iff_eq_none] at hopen
    obtain ⟨found, hfound, hday, hselect⟩ := h.1.selectUsage_some now huses hopen
    have hreserved := h.1.reserved found hfound
    have hcompleted := h.1.completed found hfound
    have hle := h.1.completes_le_holds hfound
    have hholds : holds found s.memory.job = true := by simp [holds, hday, hopen]
    rw [countP_cons, hholds] at hreserved
    rw [ends_bind, ends_selectUsage, hselect, continues_ok]
    refine ends_ite (fun hreverse => ?_) (fun hreverse => ?_)
    · rw [Bool.and_eq_true] at hreverse
      have hcompletes : completes found s.memory.job = true := by
        rw [completes, hholds, hreverse.2]
        rfl
      rw [countP_cons, hcompletes] at hcompleted
      unfold reverseReservation noteClamp markReleased
      rw [ends_bind]
      refine ends_ite (fun hclamp => ?_) (fun _ => ?_)
      · simp only [if_true] at hreserved hcompleted
        omega
      · rw [ends_pure, continues_ok, ends_bind, ends_modifyUsage, continues_ok, ends_modifyJob]
        refine ⟨rfl, ⟨?_, h.2⟩, ⟨_, _, rfl⟩, fun _ => .inr rfl⟩
        refine h.1.change hfound hday ?_ (fun _ => rfl) ?_ ?_ ?_
        · rfl
        · simp only [if_true] at hreserved
          simp [hopen]
          omega
        · simp only [if_true] at hcompleted
          simp [hopen, hreverse.2]
          omega
        · simp only [if_true] at hreserved
          dsimp only
          omega
    · refine ends_ite (fun hdone => ⟨rfl, h, .refl s, fun _ => .inl hdone⟩) (fun hdone => ?_)
      have hcompletes : completes found s.memory.job = false := by
        rw [completes, hholds, Bool.true_and]
        exact Bool.not_eq_true _ ▸ hdone
      rw [countP_cons, hcompletes] at hcompleted
      unfold freeReservation markReleased
      refine ends_ite (fun _ => ?_) (fun hwithheld => ?_)
      · rw [ends_bind, ends_modifyUsage, continues_ok, ends_modifyJob]
        refine ⟨rfl, ⟨?_, h.2⟩, ⟨_, _, rfl⟩, fun _ => .inr rfl⟩
        refine h.1.change hfound hday ?_ (fun _ => rfl) ?_ ?_ ?_
        · rfl
        · simp [hopen]
        · simp [hopen, hdone]
        · dsimp only
          omega
      · have hmono : others.countP (completes found) ≤ others.countP (holds found) := by
          refine countP_mono_left fun other _ hother => ?_
          rw [completes, Bool.and_eq_true] at hother
          exact hother.1
        simp only [if_true, Bool.false_eq_true, if_false] at hreserved hcompleted
        omega

/-- A reservation that was not completed is given back. -/
theorem ends_releaseUncompleted (h : Balanced others s) (now : Timestamp) :
    Ends (releaseUncompleted now) s fun r t => r = .ok () ∧ Balanced others t ∧
      ReleaseFrame s t ∧ Settled t.memory.job := by
  unfold releaseUncompleted
  rw [ends_bind, ends_getJob, continues_ok]
  refine ends_ite (fun _ => ends_releaseQuota h now false) (fun hno => ?_)
  refine ⟨rfl, h, .refl s, fun huses => .inl ?_⟩
  rw [huses, Bool.true_and, Bool.not_eq_true, Option.isNone_eq_false_iff] at hno
  exact hno

end Effects

end BlogOps.Publishing
