import BlogOps.RepurposeRequests

/-!
# The holds of repurposing jobs

Every hold of a repurposing job is named by the requester and the hash of the payload, so
a request gets a hold of its own exactly when its requester has no job for that payload.
-/

namespace BlogOps.RepurposeRequests

open Billing Jobs KeyedTables RepurposeJobs TransitionRuns List

theorem reachable_transact {b : Books} (h : Reachable transact emptyBooks b)
    (call : CallContext × CreditCall) : Reachable transact emptyBooks (transact b call) := by
  obtain ⟨b₀, calls, h₀, rfl⟩ := h
  exact ⟨b₀, calls ++ [call], h₀, run_concat transact b₀ calls call⟩

theorem insertJob_ok {row : JobRequest} {jobs more : List JobRequest} (h : insertJob row jobs = .ok more) :
    more = jobs ++ [row.stored] := by
  unfold insertJob at h
  split_ifs at h
  cases h
  rfl

theorem insertJob_of {row : JobRequest} {jobs : List JobRequest}
    (hid : ∀ other ∈ jobs, other.job.id ≠ row.job.id)
    (hkey : ∀ other ∈ jobs, ¬ (other.job.requestedBy = row.job.requestedBy ∧
      other.operation = row.operation ∧ other.idempotencyKey = row.idempotencyKey)) :
    insertJob row jobs = .ok (jobs ++ [row.stored]) := by
  unfold insertJob
  rw [if_neg (by simpa using hid), if_neg (by simpa using hkey)]

section Holds

variable [RequestTexts]

open RequestTexts

/-- The hold carries the name that the request of the job gives to its hold. -/
def NamedFor (row : JobRequest) (hold : CreditHold) : Prop :=
  hold.subjectType = "repurpose_job" ∧ hold.subjectId = row.requestHash ∧
    hold.idempotencyKey = budgetIdempotencyKey row.job.requestedBy row.requestHash

/-- The job refers to the hold, under the name of its request. -/
def Holds (row : JobRequest) (hold : CreditHold) : Prop :=
  row.job.budgetReservationRef = some hold.id ∧ NamedFor row hold

structure DeskInvariant (s : RepurposeDesk) : Prop where
  books : Reachable transact emptyBooks s.books
  held : ∀ row ∈ s.jobs, ∃ hold ∈ s.books.holds, Holds row hold
  owned : ∀ hold ∈ s.books.holds, hold.subjectType = "repurpose_job" → ∃ row ∈ s.jobs, Holds row hold

theorem deskInvariant_newDesk {s : RepurposeDesk} (h : NewDesk s) : DeskInvariant s where
  books := h.books
  held := by simp [h.jobs]
  owned hold hhold hsubject := absurd hsubject (h.holds hold hhold)

variable {hold : CreditHold} {authorization : BudgetAuthorization} {prepared : List PreparedItem}

theorem Holds.of_placement {row : JobRequest} {later : CreditHold} (h : Holds row hold)
    (hplacement : placement later = placement hold) : Holds row later := by
  obtain ⟨href, hname⟩ := h
  have hid : later.id = hold.id := eq_of_placement (·.id) (fun _ => rfl) hplacement
  have htype : later.subjectType = hold.subjectType :=
    eq_of_placement (·.subjectType) (fun _ => rfl) hplacement
  have hsubject : later.subjectId = hold.subjectId :=
    eq_of_placement (·.subjectId) (fun _ => rfl) hplacement
  have hkey : later.idempotencyKey = hold.idempotencyKey :=
    eq_of_placement (·.idempotencyKey) (fun _ => rfl) hplacement
  refine ⟨hid ▸ href, ?_⟩
  unfold NamedFor
  rw [htype, hsubject, hkey]
  exact hname

/-- The jobs keep their holds as long as every hold of a repurposing job that is there was there
before, and none is lost. -/
theorem DeskInvariant.of_placements {s : RepurposeDesk} {b : Books} (h : DeskInvariant s)
    (hb : Reachable transact emptyBooks b)
    (hkept : s.books.holds.map placement <+: b.holds.map placement)
    (hback : ∀ hold ∈ b.holds, hold.subjectType = "repurpose_job" →
      placement hold ∈ s.books.holds.map placement) : DeskInvariant { s with books := b } := by
  refine ⟨hb, ?_, ?_⟩
  · intro row hrow
    obtain ⟨hold, hhold, hholds⟩ := h.held row hrow
    obtain ⟨later, hlater, hplacement⟩ := mem_map.mp (hkept.subset (mem_map_of_mem hhold))
    exact ⟨later, hlater, hholds.of_placement hplacement⟩
  · intro hold hhold hsubject
    obtain ⟨earlier, hearlier, hplacement⟩ := mem_map.mp (hback hold hhold hsubject)
    have htype : earlier.subjectType = hold.subjectType :=
      eq_of_placement (·.subjectType) (fun _ => rfl) hplacement
    obtain ⟨row, hrow, hholds⟩ := h.owned earlier hearlier (htype.trans hsubject)
    exact ⟨row, hrow, hholds.of_placement hplacement.symm⟩

theorem deskInvariant_credits {s : RepurposeDesk} (h : DeskInvariant s) (other : OtherCall) :
    DeskInvariant { s with books := transact s.books (other.ctx, other.call) } := by
  have hb := (boundedBooks_reachable h.books).books
  apply h.of_placements (reachable_transact h.books _) (placements_transact hb _)
  intro hold hhold hsubject
  by_cases hcall : ∀ data, other.call ≠ .createHold data
  · have hsame : (transact s.books (other.ctx, other.call)).holds.map placement =
        s.books.holds.map placement := placements_kept hb hcall
    rw [← hsame]
    exact mem_map_of_mem hhold
  · simp only [not_forall, not_not] at hcall
    obtain ⟨data, hdata⟩ := hcall
    have hforeign := other.foreign data hdata
    rw [hdata] at hhold
    cases hperform : perform other.ctx s.books (.createHold data) with
    | error failure =>
      rw [transact_error hperform] at hhold
      exact mem_map_of_mem hhold
    | ok after =>
      rw [transact_ok hperform] at hhold
      obtain ⟨⟨placed, _⟩, hcreate, rfl⟩ := map_ok hperform
      cases (createHold_ok hcreate).2 with
      | repeated _ _ hbooks =>
        rw [hbooks] at hhold
        exact mem_map_of_mem hhold
      | created price account _ _ _ hnew hholds =>
        rw [hholds] at hhold
        rcases mem_append.mp hhold with hhold | hhold
        · exact mem_map_of_mem hhold
        · rw [mem_singleton.mp hhold, hnew] at hsubject
          exact absurd hsubject hforeign

variable {readers : PolicyReaders} {rows : BudgetPolicyRows} {call : RequestCall}
  {s after : RepurposeDesk} {row : JobRequest} {hash : String}

/-- The parts of a request that was accepted as a new job. -/
structure Requested (readers : PolicyReaders) (rows : BudgetPolicyRows) (call : RequestCall)
    (hash : String) (s after : RepurposeDesk) (row : JobRequest) (prepared : List PreparedItem)
    (hold : CreditHold) (authorization : BudgetAuthorization) : Prop where
  checked : call.data.items.zipIdx.mapM (prepareItem call.catalogue call.data) = .ok prepared
  billed : call.billed
  reserved : reserve readers rows call.ctx call.now (budgetRequest call hash) s.books =
    .ok ((hold, authorization), after.books)
  enough : call.data.estimatedCost ≤ authorization.authorizedCost
  written : row = newRow call hash hold authorization
  taken : call.takes row prepared = true
  inserted : insertJob row s.jobs = .ok after.jobs

theorem requested_of_ok (h : requestJob readers rows call hash s = .ok (row, after)) :
    ∃ prepared hold authorization,
      Requested readers rows call hash s after row prepared hold authorization := by
  obtain ⟨prepared, hprepared, h⟩ := bind_ok h
  obtain ⟨_, hbilled, h⟩ := bind_ok h
  obtain ⟨⟨⟨hold, authorization⟩, books⟩, hreserve, h⟩ := bind_ok h
  obtain ⟨_, hcost, h⟩ := bind_ok h
  obtain ⟨_, htakes, h⟩ := bind_ok h
  obtain ⟨jobs, hinsert, h⟩ := bind_ok h
  cases h
  exact ⟨prepared, hold, authorization, hprepared, require_ok hbilled, hreserve,
    require_ok hcost, rfl, require_ok htakes, hinsert⟩

theorem Requested.ok (h : Requested readers rows call hash s after row prepared hold authorization) :
    requestJob readers rows call hash s = .ok (row, after) := by
  have htaken := h.taken
  have hinserted := h.inserted
  rw [h.written] at htaken hinserted
  unfold requestJob
  rw [bind_of_ok h.checked, bind_of_ok (require_of h.billed _), bind_of_ok h.reserved]
  dsimp only
  rw [bind_of_ok (require_of h.enough _), bind_of_ok (require_of htaken _), bind_of_ok hinserted, h.written]

theorem createJob_new (hhash : requestHash call.data = some hash)
    (hsecret : ensureSecretFreeConfig call.data.generationConfig = .ok ())
    (hnew : idempotentJob call s.jobs = none) : createJob readers rows call s =
      requestJob readers rows call hash s >>= fun answer => .ok ((answer.1, true), answer.2) := by
  have hread : ofOption .validationError (requestHash call.data) = .ok hash := by
    rw [hhash]
    rfl
  unfold createJob
  rw [bind_of_ok hread, bind_of_ok hsecret]
  simp only [hnew]

/-- The two ways in which a request is accepted. -/
inductive RequestAnswer (readers : PolicyReaders) (rows : BudgetPolicyRows) (call : RequestCall)
    (s : RepurposeDesk) (row : JobRequest) : Bool → RepurposeDesk → Prop where
  | returned (hfind : idempotentJob call s.jobs = some row) :
      RequestAnswer readers rows call s row false s
  | created (hash : String) (after : RepurposeDesk) (hnew : idempotentJob call s.jobs = none)
      (hhash : requestHash call.data = some hash)
      (hsecret : ensureSecretFreeConfig call.data.generationConfig = .ok ())
      (hrequest : requestJob readers rows call hash s = .ok (row, after)) :
      RequestAnswer readers rows call s row true after

theorem createJob_ok {created : Bool} (h : createJob readers rows call s = .ok ((row, created), after)) :
    RequestAnswer readers rows call s row created after := by
  obtain ⟨hash, hhash, h⟩ := bind_ok h
  obtain ⟨_, hsecret, h⟩ := bind_ok h
  have hhash := ofOption_ok hhash
  cases hfind : idempotentJob call s.jobs with
  | some existing =>
    simp only [hfind] at h
    obtain ⟨_, _, h⟩ := bind_ok h
    cases h
    exact .returned hfind
  | none =>
    simp only [hfind] at h
    obtain ⟨⟨new, later⟩, hrequest, h⟩ := bind_ok h
    cases h
    exact .created hash _ hfind hhash hsecret hrequest

/-- What a reservation does to the holds: it returns one that has the name already, or appends
one with a name that none had. -/
theorem requested_holds (h : Requested readers rows call hash s after row prepared hold authorization) :
    Holds row hold ∧ (hold ∈ s.books.holds ∧ after.books = s.books ∨
      (∀ other ∈ s.books.holds, ¬ NamedFor row other) ∧
        after.books.holds = s.books.holds ++ [hold]) := by
  obtain ⟨-, data, hdata, hcreate⟩ := reserve_ok h.reserved
  have hrequests := reservationData_ok hdata
  have hname : ∀ other, sameKey data other = true ↔ NamedFor row other := by
    intro other
    rw [hrequests.key, h.written]
    simp only [decide_eq_true_eq]
    exact Iff.rfl
  have href : row.job.budgetReservationRef = some hold.id := by
    rw [h.written]
    rfl
  cases (createHold_ok hcreate).2 with
  | repeated hfind _ hbooks =>
    have hkey := (hname hold).mp (find?_some hfind)
    exact ⟨⟨href, hkey⟩, .inl ⟨mem_of_find?_eq_some hfind, hbooks⟩⟩
  | created price account hfind _ _ hhold hholds =>
    have hkey : sameKey data hold = true := by
      rw [hhold]
      simp [sameKey, newHold]
    refine ⟨⟨href, (hname hold).mp hkey⟩, .inr ⟨?_, hholds⟩⟩
    intro other hother hnamed
    exact find?_eq_none.mp hfind other hother ((hname other).mpr hnamed)

theorem reachable_requested (hs : Reachable transact emptyBooks s.books)
    (h : Requested readers rows call hash s after row prepared hold authorization) :
    Reachable transact emptyBooks after.books := by
  obtain ⟨-, data, -, hcreate⟩ := reserve_ok h.reserved
  have hperform : perform call.ctx s.books (.createHold data) = .ok after.books :=
    congrArg (Except.map Prod.snd) hcreate
  rw [← transact_ok hperform]
  exact reachable_transact hs _

theorem deskInvariant_create {created : Bool} (hs : DeskInvariant s)
    (h : createJob readers rows call s = .ok ((row, created), after)) : DeskInvariant after := by
  cases createJob_ok h with
  | returned hfind => exact hs
  | created hash _ hnew hhash hsecret hrequest =>
    obtain ⟨prepared, hold, authorization, hrequested⟩ := requested_of_ok hrequest
    obtain ⟨hholds, hbooks⟩ := requested_holds hrequested
    have hjobs := insertJob_ok hrequested.inserted
    have hmem : hold ∈ after.books.holds := by
      rcases hbooks with ⟨hold', hsame⟩ | ⟨-, happend⟩
      · rw [hsame]
        exact hold'
      · rw [happend]
        exact mem_append_right _ (mem_singleton_self hold)
    refine ⟨reachable_requested hs.books hrequested, ?_, ?_⟩
    · intro other hother
      rw [hjobs] at hother
      rcases mem_append.mp hother with hother | hother
      · obtain ⟨held, hheld, hotherHolds⟩ := hs.held other hother
        refine ⟨held, ?_, hotherHolds⟩
        rcases hbooks with ⟨-, hsame⟩ | ⟨-, happend⟩
        · rw [hsame]
          exact hheld
        · rw [happend]
          exact mem_append_left _ hheld
      · rw [mem_singleton.mp hother]
        exact ⟨hold, hmem, hholds⟩
    · intro other hother hsubject
      have hearlier : other ∈ s.books.holds ∨ other = hold := by
        rcases hbooks with ⟨-, hsame⟩ | ⟨-, happend⟩
        · rw [hsame] at hother
          exact .inl hother
        · rw [happend] at hother
          exact (mem_append.mp hother).imp id mem_singleton.mp
      rw [hjobs]
      rcases hearlier with hother | rfl
      · obtain ⟨owner, howner, hotherHolds⟩ := hs.owned other hother hsubject
        exact ⟨owner, mem_append_left _ howner, hotherHolds⟩
      · exact ⟨row.stored, mem_append_right _ (mem_singleton_self _), hholds⟩

theorem deskInvariant_progress (hs : DeskInvariant s) (jobId : Uuid) (progress : JobProgress) :
    DeskInvariant { s with
      jobs := updateRow (·.job.id) jobId (JobRequest.advance progress) s.jobs } := by
  refine ⟨hs.books, ?_, ?_⟩
  · intro row hrow
    obtain ⟨earlier, hearlier, hrow⟩ := mem_updateRow hrow
    obtain ⟨hold, hhold, hholds⟩ := hs.held earlier hearlier
    refine ⟨hold, hhold, ?_⟩
    rcases hrow with ⟨-, rfl⟩ | ⟨-, rfl⟩ <;> exact hholds
  · intro hold hhold hsubject
    obtain ⟨row, hrow, hholds⟩ := hs.owned hold hhold hsubject
    by_cases hid : row.job.id = jobId
    · exact ⟨JobRequest.advance progress row, mem_updateRow_of_mem hrow hid, hholds⟩
    · exact ⟨row, mem_updateRow_of_ne hrow hid, hholds⟩

theorem deskInvariant_step (s : RepurposeDesk) (a : DeskAction) (hs : DeskInvariant s) :
    DeskInvariant (stepDesk readers rows s a) := by
  cases a with
  | create call =>
    simp only [stepDesk]
    split
    · rename_i answer after hcreate
      exact deskInvariant_create hs hcreate
    · exact hs
  | progress jobId progress => exact deskInvariant_progress hs jobId progress
  | credits other => exact deskInvariant_credits hs other

/-- The call would be accepted in a workspace without any repurposing job. -/
def AcceptedOnEmpty (readers : PolicyReaders) (rows : BudgetPolicyRows) (call : RequestCall) : Prop :=
  ∃ s row after, NewDesk s ∧ createJob readers rows call s = .ok ((row, true), after)

/-- A call under a new key that only the earlier jobs can stand in the way of: it would be
accepted without them, the credits that it is authorized to hold are there, and the ids drawn for
its rows are fresh. -/
structure Acceptable (readers : PolicyReaders) (rows : BudgetPolicyRows) (call : RequestCall)
    (s : RepurposeDesk) : Prop where
  new : ∀ row ∈ s.jobs, ¬ call.repeats row
  empty : AcceptedOnEmpty readers rows call
  credits : ∀ hash authorization, requestHash call.data = some hash →
    authorizeCosts readers rows call.ctx call.now (budgetRequest call hash) = .ok authorization →
    EnoughCredits call.ctx.now authorization.maximumCreditAmount s.books
  fresh : FreshRows call.ctx s.books
  id : ∀ row ∈ s.jobs, row.job.id ≠ call.jobId

/-- An acceptable call creates a job with a hold that no earlier job has, and only a call that
repeats an earlier one returns its job. -/
def OwnHold (readers : PolicyReaders) (rows : BudgetPolicyRows) (s : RepurposeDesk) : DeskAction → Prop
  | .create call =>
    (Acceptable readers rows call s → ∃ row after,
      createJob readers rows call s = .ok ((row, true), after) ∧ ∀ earlier ∈ s.jobs,
          earlier.job.budgetReservationRef ≠ row.job.budgetReservationRef) ∧
    ∀ row after, createJob readers rows call s = .ok ((row, false), after) → row ∈ s.jobs ∧ call.repeats row
  | _ => True

/-- An acceptable call asks for something that its user has no job for yet. -/
def UnusedPayload (readers : PolicyReaders) (rows : BudgetPolicyRows) (s : RepurposeDesk) : DeskAction → Prop
  | .create call => Acceptable readers rows call s →
    ∀ row ∈ s.jobs, row.job.requestedBy = call.ctx.actorId → requestHash call.data ≠ some row.requestHash
  | _ => True

theorem returned_repeats (h : createJob readers rows call s = .ok ((row, false), after)) :
    row ∈ s.jobs ∧ call.repeats row := by
  cases createJob_ok h with
  | returned hfind => exact ⟨mem_of_find?_eq_some hfind, find?_some hfind⟩

/-- The user's own earlier job has the hold that the request names. -/
theorem unusedPayload_of_ownHold (hs : DeskInvariant s) (h : OwnHold readers rows s (.create call)) :
    UnusedPayload readers rows s (.create call) := by
  intro hacceptable earlier hearlier huser hsame
  obtain ⟨row, after, hcreate, hown⟩ := h.1 hacceptable
  cases createJob_ok hcreate with
  | created hash _ hnew hhash hsecret hrequest =>
    have hpayload : earlier.requestHash = hash := Option.some.inj (hsame.symm.trans hhash)
    obtain ⟨prepared, hold, authorization, hrequested⟩ := requested_of_ok hrequest
    obtain ⟨hholds, hbooks⟩ := requested_holds hrequested
    rcases hbooks with ⟨hold', -⟩ | ⟨hnone, -⟩
    · obtain ⟨owner, howner, href, -⟩ := hs.owned hold hold' hholds.2.1
      exact hown owner howner (href.trans hholds.1.symm)
    · obtain ⟨held, hheld, -, hname⟩ := hs.held earlier hearlier
      apply hnone held hheld
      unfold NamedFor at hname ⊢
      rw [hpayload, huser] at hname
      rw [hrequested.written]
      exact hname

/-- What the acceptance without earlier jobs says of a call. -/
structure Admitted (readers : PolicyReaders) (rows : BudgetPolicyRows) (call : RequestCall)
    (hash : String) (prepared : List PreparedItem) (authorization : BudgetAuthorization)
    (data : CreditHoldCreate) (price : BillingPriceVersion) : Prop where
  payload : requestHash call.data = some hash
  secret : ensureSecretFreeConfig call.data.generationConfig = .ok ()
  checked : call.data.items.zipIdx.mapM (prepareItem call.catalogue call.data) = .ok prepared
  billed : call.billed
  authorized : authorizeCosts readers rows call.ctx call.now (budgetRequest call hash) = .ok authorization
  enough : call.data.estimatedCost ≤ authorization.authorizedCost
  reservable : reservationData authorization (budgetRequest call hash) = .ok data
  unexpired : call.ctx.now < data.expiresAt
  priced : priceOf call.ctx data.priceVersionId = .ok price
  taken : ∀ hold, hold.id = call.ctx.newId 0 →
    call.takes (newRow call hash hold authorization) prepared = true

theorem admitted_of_empty (h : AcceptedOnEmpty readers rows call) : ∃ hash prepared authorization data price,
      Admitted readers rows call hash prepared authorization data price := by
  obtain ⟨s, row, after, hs, hcreate⟩ := h
  cases createJob_ok hcreate with
  | created hash _ hnew hhash hsecret hrequest =>
    obtain ⟨prepared, hold, authorization, hrequested⟩ := requested_of_ok hrequest
    obtain ⟨hauthorize, data, hdata, hplaced⟩ := reserve_ok hrequested.reserved
    obtain ⟨hunexpired, hanswer⟩ := createHold_ok hplaced
    cases hanswer with
    | repeated hfind _ _ =>
      have hkey := find?_some hfind
      rw [(reservationData_ok hdata).key] at hkey
      simp only [decide_eq_true_eq] at hkey
      exact absurd hkey.1 (hs.holds hold (mem_of_find?_eq_some hfind))
    | created price account _ hprice _ hhold _ =>
      refine ⟨hash, prepared, authorization, data, price, hhash, hsecret, hrequested.checked,
        hrequested.billed, (authorize_ok hauthorize).1, hrequested.enough, hdata, hunexpired,
        hprice, ?_⟩
      intro other hid
      have hsame : newRow call hash other authorization = row := by
        have hholdId : hold.id = call.ctx.newId 0 := by
          rw [hhold]
          rfl
        rw [hrequested.written]
        unfold newRow
        rw [hid, hholdId]
      rw [hsame]
      exact hrequested.taken

/-- Without an earlier job of the user for the payload, no hold has the name of the new one. -/
theorem ownHold_of_unusedPayload
    (hdigest : ∀ hash, Function.Injective fun actorId => budgetDigest actorId hash) (hs : DeskInvariant s)
    (h : UnusedPayload readers rows s (.create call)) : OwnHold readers rows s (.create call) := by
  refine ⟨?_, fun row after hcreate => returned_repeats hcreate⟩
  intro hacceptable
  have hunused := h hacceptable
  obtain ⟨hash, prepared, authorization, data, price, hadmitted⟩ := admitted_of_empty hacceptable.empty
  have hrequests := reservationData_ok hadmitted.reservable
  obtain ⟨basis, hbasis⟩ := authorizeCosts_ok hadmitted.authorized
  have henough := hacceptable.credits hash authorization hadmitted.payload hadmitted.authorized
  have hfind : s.books.holds.find? (sameKey data) = none := by
    apply find?_eq_none.mpr
    intro hold hhold hkey
    rw [hrequests.key] at hkey
    simp only [decide_eq_true_eq] at hkey
    obtain ⟨htype, hsubject, hname⟩ := hkey
    obtain ⟨owner, howner, -, -, hownerSubject, hownerName⟩ := hs.owned hold hhold htype
    have hpayload : hash = owner.requestHash := hsubject.symm.trans hownerSubject
    have hdigests : budgetIdempotencyKey owner.job.requestedBy hash =
        budgetIdempotencyKey call.ctx.actorId hash := by
      rw [hpayload] at hname ⊢
      exact hownerName.symm.trans hname
    have huser : owner.job.requestedBy = call.ctx.actorId :=
      hdigest hash (String.append_right_inj _ |>.mp hdigests)
    exact hunused owner howner huser (hadmitted.payload.trans (congrArg some hpayload))
  rw [← hrequests.amount] at henough
  obtain ⟨hold, books, hplaced, hid⟩ := createHold_of (boundedBooks_reachable hs.books)
    hadmitted.unexpired hfind hadmitted.priced
    (hrequests.amount ▸ hbasis.credits_lt) henough hacceptable.fresh
  have hreserve : reserve readers rows call.ctx call.now (budgetRequest call hash) s.books =
      .ok ((hold, authorization), books) :=
    reserve_of (authorize_of_balance hadmitted.authorized hbasis.credits_pos
      (hrequests.amount ▸ henough.balance)) hadmitted.reservable hplaced
  obtain ⟨after, hrequested⟩ : ∃ after, Requested readers rows call hash s after
      (newRow call hash hold authorization) prepared hold authorization := by
    use { jobs := s.jobs ++ [(newRow call hash hold authorization).stored], books := books }
    refine ⟨hadmitted.checked, hadmitted.billed, hreserve, hadmitted.enough, rfl,
      hadmitted.taken hold hid, insertJob_of hacceptable.id ?_⟩
    intro other hother hsame
    apply hacceptable.new other hother
    simpa [RequestCall.repeats, newRow] using hsame
  have hnew : idempotentJob call s.jobs = none :=
    find?_eq_none.mpr fun other hother => hacceptable.new other hother
  refine ⟨newRow call hash hold authorization, after, ?_, ?_⟩
  · rw [createJob_new hadmitted.payload hadmitted.secret hnew, bind_of_ok hrequested.ok]
  · intro earlier hearlier hsame
    obtain ⟨held, hheld, href, -⟩ := hs.held earlier hearlier
    have heq : held.id = hold.id := Option.some.inj (href.symm.trans hsame)
    exact hacceptable.fresh.hold held hheld (heq.trans hid)

/-- In a run of requests, credit calls and deliveries every acceptable request gets a hold of its
own exactly as long as no user asks for the same thing under a second key. -/
theorem own_hold_iff (hdigest : ∀ hash, Function.Injective fun actorId => budgetDigest actorId hash)
    (hs : NewDesk s) (actions : List DeskAction) :
    Along (stepDesk readers rows) (OwnHold readers rows) s actions ↔
      Along (stepDesk readers rows) (UnusedPayload readers rows) s actions := by
  have hstep : ∀ s a, DeskInvariant s → True →
      (OwnHold readers rows s a ↔ UnusedPayload readers rows s a) := by
    intro s a hinv _
    cases a with
    | create call => exact ⟨unusedPayload_of_ownHold hinv, ownHold_of_unusedPayload hdigest hinv⟩
    | progress jobId progress => exact Iff.rfl
    | credits other => exact Iff.rfl
  apply along_iff_along_of_invariant (stepDesk readers rows) (R := fun _ _ => True) hstep
  · intro s a hinv _ _
    exact deskInvariant_step s a hinv
  · exact deskInvariant_newDesk hs
  · exact along_of_always _ (fun _ _ => trivial) _ _

end Holds

abbrev sampleTexts : RequestTexts where
  requestHash data := some data.modelName
  configHash _ := "config"
  budgetDigest actorId hash := Nat.repr actorId ++ hash
  str
    | .text value => value
    | _ => ""
  truthy
    | .bool value => value
    | _ => false
  lower value := value
  upper value := value

attribute [local instance] sampleTexts

def sampleCatalogue : RepurposeCatalogue where
  contents := [{ id := 1 }]
  versions := [{ id := 2, contentId := 1 }]
  templates := [{ id := 3, currentVersionId := some 4 }]
  templateVersions := [{
    id := 4, templateId := 3, status := .published
    platformPolicy := [("policy_version", .text "1"), ("source", .text "catalogue"),
      ("constraints", .object [])]
    modelPolicy := [("allowed_models", .list [
      .object [("provider", .text "provider"), ("model", .text "small"), ("model_version", .text "1")],
      .object [("provider", .text "provider"), ("model", .text "large"), ("model_version", .text "1")]])] }]

def sampleRequest (model : String) (hmodel : textFits 1 160 model = true) : RepurposeJobCreate where
  operation := .single
  items := [{
    contentId := 1, contentVersionId := 2, templateVersionId := 4
    variantCount_pos := by decide }]
  items_nonempty := by simp
  operation_matches_items _ := rfl
  modelProvider := "provider"
  modelName := model
  modelVersion := "1"
  model_fits := ⟨by decide, hmodel, by decide⟩
  generationConfig := []
  estimatedCost := 3
  estimatedCost_nonneg := by decide
  budgetCurrency := "KRW"
  budgetCurrency_length := by decide

def sampleCall (now : Nat) (key model : String) (hmodel : textFits 1 160 model = true) : RequestCall where
  ctx := budgetContextAt now
  now := now
  jobId := now
  data := sampleRequest model hmodel
  idempotencyKey := key
  catalogue := sampleCatalogue
  takes _ _ := true

def emptyDesk : RepurposeDesk := ⟨[], fundedBooks⟩

theorem newDesk_emptyDesk : NewDesk emptyDesk where
  jobs := rfl
  books := reachable_fundedBooks
  holds := by
    have hnone : emptyDesk.books.holds = [] := by decide +kernel
    simp [hnone]

abbrev sampleStep : RepurposeDesk → DeskAction → RepurposeDesk :=
  stepDesk samplePolicyReaders samplePolicyRows

def firstCall : RequestCall := sampleCall 10 "first" "small" (by decide)

def sampleDesk : RepurposeDesk := sampleStep emptyDesk (.create firstCall)

theorem sampleTexts_digest (hash : String) :
    Function.Injective fun actorId => RequestTexts.budgetDigest actorId hash := by
  intro actor other hsame
  exact Nat.repr_injective (String.append_left_inj hash |>.mp hsame)

/-- Two requests for different models. -/
theorem own_hold_sample : Along sampleStep (OwnHold samplePolicyReaders samplePolicyRows) emptyDesk
      [.create firstCall, .create (sampleCall 20 "second" "large" (by decide))] := by
  apply (own_hold_iff sampleTexts_digest newDesk_emptyDesk _).mpr
  refine ⟨?_, ?_, trivial⟩
  · intro _ row hrow
    cases hrow
  · intro _ row hrow _ hsame
    have hhashes : sampleDesk.jobs.map (·.requestHash) = ["small"] := by decide +kernel
    have hhash : row.requestHash ∈ ["small"] := hhashes ▸ mem_map_of_mem hrow
    rw [mem_singleton.mp hhash] at hsame
    exact absurd hsame (by decide)

def secondCall : RequestCall := sampleCall 20 "second" "small" (by decide)

theorem acceptedOnEmpty_secondCall : AcceptedOnEmpty samplePolicyReaders samplePolicyRows secondCall := by
  obtain ⟨⟨⟨row, created⟩, after⟩, hcreate, htest⟩ := ok_of_test
    (x := createJob samplePolicyReaders samplePolicyRows secondCall emptyDesk)
    (fun answer => answer.1.2) (by decide +kernel)
  simp only at htest
  rw [htest] at hcreate
  exact ⟨emptyDesk, row, after, newDesk_emptyDesk, hcreate⟩

theorem acceptable_secondCall : Acceptable samplePolicyReaders samplePolicyRows secondCall sampleDesk where
  new := by decide +kernel
  empty := acceptedOnEmpty_secondCall
  credits := by
    intro hash authorization hhash hcosts
    have hcredits : (authorizeCosts samplePolicyReaders samplePolicyRows secondCall.ctx
        secondCall.now (budgetRequest secondCall "small")).toOption.map
          (·.maximumCreditAmount) = some 3000000 := by
      decide +kernel
    cases hhash
    have hcosts' : authorizeCosts samplePolicyReaders samplePolicyRows secondCall.ctx
        secondCall.now (budgetRequest secondCall "small") = .ok authorization := hcosts
    rw [hcosts'] at hcredits
    have hamount : authorization.maximumCreditAmount = 3000000 := Option.some.inj hcredits
    rw [hamount]
    refine ⟨by decide +kernel, ?_, by decide +kernel⟩
    intro account haccount
    have hgrants : sampleDesk.books.account.all (fun account => (3000000 : Int) ≤
        total (·.availableAmount) (spendableGrants account.id secondCall.ctx.now
          sampleDesk.books)) = true := by
      decide +kernel
    rw [haccount] at hgrants
    simpa using hgrants
  fresh := {
    distinct := by
      intro n m hsame
      have hids : 100 * 20 + n = 100 * 20 + m := hsame
      omega
    hold := by decide +kernel
    allocation := by
      intro a ha n
      have hids : ∀ a ∈ sampleDesk.books.allocations, a.id < 2000 := by decide +kernel
      have hid := hids a ha
      have hnew : secondCall.ctx.newId n = 100 * 20 + n := rfl
      rw [hnew]
      exact Nat.ne_of_lt (Nat.lt_of_lt_of_le hid (Nat.le_add_right _ _))
    entry := by decide +kernel
    entry_key := by decide +kernel
    width := by decide +kernel }
  id := by decide +kernel

/-- Under a second key the same user is refused the same request, whose hold is the one of the
first job. -/
theorem same_payload_refused : NewDesk emptyDesk ∧
      Acceptable samplePolicyReaders samplePolicyRows secondCall (sampleStep emptyDesk (.create firstCall)) ∧
      (∃ error, createJob samplePolicyReaders samplePolicyRows secondCall
          (sampleStep emptyDesk (.create firstCall)) = .error (.app error) ∧
        error.code = "IDEMPOTENCY_KEY_REUSED") ∧
      ¬ Along sampleStep (OwnHold samplePolicyReaders samplePolicyRows) emptyDesk
        [.create firstCall, .create secondCall] := by
  have hrefused : createJob samplePolicyReaders samplePolicyRows secondCall sampleDesk = .error (.app {
        code := "IDEMPOTENCY_KEY_REUSED"
        message := "같은 멱등키의 Hold 요청이 다릅니다."
        statusCode := 409 }) := by
    have hmapped : (createJob samplePolicyReaders samplePolicyRows secondCall sampleDesk).map
        (fun _ => ()) = .error (.app {
          code := "IDEMPOTENCY_KEY_REUSED"
          message := "같은 멱등키의 Hold 요청이 다릅니다."
          statusCode := 409 }) := by
      decide +kernel
    exact map_error hmapped
  refine ⟨newDesk_emptyDesk, acceptable_secondCall, ⟨_, hrefused, rfl⟩, ?_⟩
  rintro ⟨-, ⟨hown, -⟩, -⟩
  obtain ⟨row, after, hcreate, -⟩ := hown acceptable_secondCall
  have hcontra := hcreate.symm.trans hrefused
  cases hcontra

end BlogOps.RepurposeRequests
