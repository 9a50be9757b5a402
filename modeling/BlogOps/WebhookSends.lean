import BlogOps.WebhookRuns

/-!
# Bounded webhook sends

The attempts and the requests of a delivery over every run of the desk: the numbering of the attempt
rows, what a delivered state means, and how many requests a replay cycle sends as long as every
answer of the transport can be stored.
-/

namespace BlogOps.Developer

open KeyedTables TransitionRuns List

def rowsOf (s : WebhookDesk) (id : Uuid) : List WebhookDeliveryAttempt :=
  s.attempts.filter (·.deliveryId = id)

def sendsTo (s : WebhookDesk) (id : Uuid) : List Send := s.sends.filter (·.deliveryId = id)

/-- A property of every delivery together with its attempt rows and its requests. -/
def Everywhere (P : WebhookDelivery → List WebhookDeliveryAttempt → List Send → Prop)
    (s : WebhookDesk) : Prop :=
  ∀ delivery ∈ s.deliveries, P delivery (rowsOf s delivery.id) (sendsTo s delivery.id)

structure DeskInvariant (s : WebhookDesk) : Prop where
  keyed : Keyed WebhookDelivery.id s.deliveries
  attempts : ∀ row ∈ s.attempts, row.deliveryId ∈ s.deliveries.map WebhookDelivery.id
  sends : ∀ send ∈ s.sends, send.deliveryId ∈ s.deliveries.map WebhookDelivery.id

variable {t : WebhookSession} {committed : Bool} {id : Uuid} {now : Int} {a : WebhookAction}

section Frames

variable {texts : WebhookTexts} {env : WorkerEnvironment} {s : WebhookDesk}
  {P : WebhookDelivery → List WebhookDeliveryAttempt → List Send → Prop}

/-- What a run adds belongs to its delivery. -/
structure Adds (s t : WebhookSession) (sent : List Send) : Prop where
  sends : t.sends = s.sends ++ sent
  own : ∀ send ∈ sent, send.deliveryId = s.delivery.id ∧ send.cycle = s.delivery.manualReplayCount
  few : sent.length ≤ 1
  added : ∀ row ∈ t.added, row.deliveryId = s.delivery.id

theorem sentBy_cases (texts : WebhookTexts) (env : WorkerEnvironment) (s : WebhookSession) :
    sentBy texts env s = [] ∨ ∃ request, preparedRequest texts env s = some request ∧
      sentBy texts env s = [⟨s.delivery.id, s.delivery.manualReplayCount, env.now, request⟩] := by
  unfold sentBy
  cases preparedRequest texts env s with
  | none => exact .inl rfl
  | some request => exact .inr ⟨request, rfl, rfl⟩

theorem adds_sentBy {s : WebhookSession} (hsends : t.sends = s.sends ++ sentBy texts env s)
    (hadded : ∀ row ∈ t.added, row.deliveryId = s.delivery.id) : Adds s t (sentBy texts env s) := by
  refine ⟨hsends, ?_, ?_, hadded⟩
  · intro send hsend
    rcases sentBy_cases texts env s with hnone | ⟨request, -, hone⟩
    · rw [hnone] at hsend
      cases hsend
    · rw [hone] at hsend
      rw [mem_singleton.1 hsend]
      exact ⟨rfl, rfl⟩
  · rcases sentBy_cases texts env s with hnone | ⟨request, -, hone⟩
    · rw [hnone]
      exact Nat.zero_le 1
    · rw [hone]
      exact Nat.le_refl 1

theorem adds_nothing {s : WebhookSession} (hsends : t.sends = s.sends) (hadded : t.added = []) :
    Adds s t [] := by
  refine ⟨hsends.trans (append_nil _).symm, nofun, Nat.zero_le 1, ?_⟩
  intro row hrow
  rw [hadded] at hrow
  cases hrow

theorem RunEnd.adds {s : WebhookSession} (hopened : Opened s) (h : RunEnd texts env s committed t) :
    ∃ sent, Adds s t sent := by
  have hrow : ∀ result outcome,
      ∀ row ∈ s.added ++ [attemptRow env s.delivery s.endpoint result outcome],
        row.deliveryId = s.delivery.id := by
    intro result outcome row hrow
    rw [hopened.added] at hrow
    rw [mem_singleton.1 hrow]
    rfl
  have hnone : ∀ row ∈ s.added, row.deliveryId = s.delivery.id := by
    intro row hrow
    rw [hopened.added] at hrow
    cases hrow
  cases h with
  | idle h => exact ⟨[], adds_nothing rfl hopened.added⟩
  | cancelled hopen hdue hclosed => exact ⟨[], adds_nothing rfl hopened.added⟩
  | refused hdue hunstorable => exact ⟨_, adds_sentBy rfl hnone⟩
  | unjudged hdue hjudged => exact ⟨_, adds_sentBy rfl hnone⟩
  | unscheduled hdue hjudged houtcome hnext hstorable =>
    exact ⟨_, adds_sentBy rfl (hrow _ _)⟩
  | settled hdue hjudged houtcome hnext hstorable => exact ⟨_, adds_sentBy rfl (hrow _ _)⟩

section

variable {α : Type} {p : α → Bool} {rows more : List α}

theorem filter_append_of_forall (h : ∀ row ∈ more, p row = true) :
    (rows ++ more).filter p = rows.filter p ++ more := by
  rw [filter_append, filter_eq_self.2 h]

theorem filter_append_of_none (h : ∀ row ∈ more, p row = false) :
    (rows ++ more).filter p = rows.filter p := by
  have hnone : more.filter p = [] :=
    filter_eq_nil_iff.2 fun row hrow => Bool.eq_false_iff.1 (h row hrow)
  rw [filter_append, hnone, append_nil]

end

/-- A committed session changes one delivery and appends to its rows and requests only. -/
theorem everywhere_commit (h : Everywhere P s) {delivery : WebhookDelivery} {sent : List Send}
    (hplan : SamePlan delivery t.delivery) (hadds : Adds (s.session delivery) t sent)
    (hnew : P t.delivery (rowsOf s delivery.id ++ t.added) (sendsTo s delivery.id ++ sent)) :
    Everywhere P (s.commit t) := by
  have hsends : (s.commit t).sends = s.sends ++ sent := hadds.sends
  intro row hrow
  have hid := hplan.id
  obtain ⟨old, hold, ⟨hkey, rfl⟩ | ⟨hkey, rfl⟩⟩ := mem_updateRow hrow
  · have hrows : rowsOf (s.commit t) t.delivery.id = rowsOf s delivery.id ++ t.added := by
      rw [hid]
      exact filter_append_of_forall fun row hrow => decide_eq_true (hadds.added row hrow)
    have hsent : sendsTo (s.commit t) t.delivery.id = sendsTo s delivery.id ++ sent := by
      rw [hid]
      unfold sendsTo
      rw [hsends]
      exact filter_append_of_forall fun send hsend => decide_eq_true (hadds.own send hsend).1
    rw [hrows, hsent]
    exact hnew
  · rw [hid] at hkey
    have hrows : rowsOf (s.commit t) row.id = rowsOf s row.id :=
      filter_append_of_none fun added hadded =>
        decide_eq_false fun hsame => hkey (hsame.symm.trans (hadds.added added hadded))
    have hsent : sendsTo (s.commit t) row.id = sendsTo s row.id := by
      unfold sendsTo
      rw [hsends]
      exact filter_append_of_none fun send hsend =>
        decide_eq_false fun hsame => hkey (hsame.symm.trans (hadds.own send hsend).1)
    rw [hrows, hsent]
    exact h row hold

theorem everywhere_replay (h : Everywhere P s)
    (hnew : ∀ delivery ∈ s.deliveries, delivery.id = id →
      P (delivery.replay now) (rowsOf s id) (sendsTo s id)) : Everywhere P
      { s with deliveries := updateRow WebhookDelivery.id id (·.replay now) s.deliveries } := by
  intro row hrow
  obtain ⟨old, hold, ⟨hkey, rfl⟩ | ⟨hkey, rfl⟩⟩ := mem_updateRow hrow
  · have hsame : (old.replay now).id = id := hkey
    rw [hsame]
    exact hnew old hold hkey
  · exact h row hold

end Frames

/-- The attempts of a delivery are numbered without gaps, and it is delivered if the last of them
succeeded in the current replay cycle. -/
structure Traced (d : WebhookDelivery) (rows : List WebhookDeliveryAttempt) (sends : List Send) :
    Prop where
  numbered : rows.map WebhookDeliveryAttempt.attemptNo = List.range' 1 d.attemptCount
  cycles : ∀ row ∈ rows, row.deliveryCycle ≤ d.manualReplayCount
  latest : d.state = .delivered ↔ ∃ row, rows.getLast? = some row ∧ row.outcome = .succeeded ∧
    row.deliveryCycle = d.manualReplayCount
  replays : d.manualReplayCount ≤ d.manualReplayLimit

section Traced

variable {texts : WebhookTexts} {env : WorkerEnvironment} {d e : WebhookDelivery}
  {rows : List WebhookDeliveryAttempt} {sends more : List Send}

/-- Without a new attempt an open delivery is not delivered. -/
theorem Traced.close (h : Traced d rows sends) (hd : d.state ≠ .delivered) (he : e.state ≠ .delivered)
    (hcount : e.attemptCount = d.attemptCount) (hreplays : e.manualReplayCount = d.manualReplayCount)
    (hlimit : e.manualReplayLimit = d.manualReplayLimit) : Traced e rows more where
  numbered := hcount ▸ h.numbered
  cycles := hreplays ▸ h.cycles
  latest := by
    rw [hreplays]
    exact iff_of_false he (h.latest.not.1 hd)
  replays := by
    rw [hreplays, hlimit]
    exact h.replays

theorem Traced.attempt (h : Traced d rows sends) {row : WebhookDeliveryAttempt}
    (hno : row.attemptNo = d.attemptCount + 1) (hcycle : row.deliveryCycle = d.manualReplayCount)
    (hcount : e.attemptCount = d.attemptCount + 1) (hreplays : e.manualReplayCount = d.manualReplayCount)
    (hlimit : e.manualReplayLimit = d.manualReplayLimit)
    (hstate : e.state = .delivered ↔ row.outcome = .succeeded) : Traced e (rows ++ [row]) more where
  numbered := by
    rw [map_append, h.numbered, hcount, List.range'_concat]
    simp [hno, Nat.add_comm]
  cycles := by
    intro other hother
    rw [hreplays]
    rcases mem_append.1 hother with hother | hother
    · exact h.cycles other hother
    · rw [mem_singleton.1 hother, hcycle]
  latest := by
    rw [hstate, hreplays]
    simp [hcycle]
  replays := by
    rw [hreplays, hlimit]
    exact h.replays

theorem not_delivered_of_open (h : d.state ∈ openStates) : d.state ≠ .delivered := by
  intro hstate
  rw [hstate] at h
  exact absurd h (by decide)

theorem traced_run {s : WebhookSession} (hopened : Opened s) (h : Traced s.delivery rows sends)
    (hend : RunEnd texts env s committed t) : Traced t.delivery (rows ++ t.added) more := by
  have hnothing : rows ++ s.added = rows := by rw [hopened.added, append_nil]
  cases hend with
  | idle hidle =>
    rw [hnothing]
    exact ⟨h.numbered, h.cycles, h.latest, h.replays⟩
  | cancelled hopen hdue hclosed =>
    show Traced s.delivery.cancel (rows ++ s.added) more
    rw [hnothing]
    exact h.close (not_delivered_of_open hopen) nofun rfl rfl rfl
  | refused hdue hunstorable =>
    show Traced s.delivery (rows ++ s.added) more
    rw [hnothing]
    exact ⟨h.numbered, h.cycles, h.latest, h.replays⟩
  | unjudged hdue hjudged =>
    rename_i failure
    show Traced (s.delivery.deadLetter env.now _) (rows ++ s.added) more
    rw [hnothing]
    exact h.close (not_delivered_of_open hdue.isOpen) nofun rfl rfl rfl
  | unscheduled hdue hjudged houtcome hnext hstorable =>
    rename_i judged failure
    let row := attemptRow env s.delivery s.endpoint (resultOf texts env s) .retryableFailure
    show Traced ((s.delivery.count.await _).deadLetter env.now _) (rows ++ (s.added ++ [row])) more
    rw [hopened.added]
    exact h.attempt rfl rfl rfl rfl rfl ⟨nofun, nofun⟩
  | settled hdue hjudged houtcome hnext hstorable =>
    rename_i judged outcome next
    let row := attemptRow env s.delivery s.endpoint (resultOf texts env s) outcome
    show Traced (settledDelivery env _ outcome next s.delivery) (rows ++ (s.added ++ [row])) more
    rw [hopened.added]
    cases outcome with
    | succeeded => exact h.attempt rfl rfl rfl rfl rfl ⟨fun _ => rfl, fun _ => rfl⟩
    | retryableFailure => exact h.attempt rfl rfl rfl rfl rfl ⟨nofun, nofun⟩
    | finalFailure => exact h.attempt rfl rfl rfl rfl rfl ⟨nofun, nofun⟩

/-- A replay begins a cycle that no attempt belongs to. -/
theorem traced_replay (h : Traced d rows sends)
    (hlimit : d.manualReplayCount < d.manualReplayLimit) : Traced (d.replay now) rows more where
  numbered := h.numbered
  cycles row hrow := Nat.le_succ_of_le (h.cycles row hrow)
  latest := by
    refine iff_of_false nofun ?_
    rintro ⟨row, hlast, -, hcycle⟩
    have hold := h.cycles row (mem_of_getLast? hlast)
    have hnew : row.deliveryCycle = d.manualReplayCount + 1 := hcycle
    omega
  replays := hlimit

theorem traced_new (id : Uuid) (data : WebhookEventCreate) (now : Int) :
    Traced (newDelivery id data now) [] more where
  numbered := rfl
  cycles := nofun
  latest := ⟨nofun, fun ⟨_, hlast, _⟩ => nomatch hlast⟩
  replays := Nat.zero_le _

end Traced

theorem cancelled_closed : WebhookDeliveryState.cancelled ∉ openStates := by decide

theorem deadLettered_closed : WebhookDeliveryState.deadLettered ∉ openStates := by decide

theorem delivered_closed : WebhookDeliveryState.delivered ∉ openStates := by decide

theorem retryWait_open : WebhookDeliveryState.retryWait ∈ openStates := by decide

theorem pending_open : WebhookDeliveryState.pending ∈ openStates := by decide

def inCycle (sends : List Send) (cycle : Nat) : Nat := (sends.filter (·.cycle = cycle)).length

/-- A cycle sends at most as many requests as the delivery may attempt, and so do all cycles that
the replay limit allows. -/
structure WithinLimits (d : WebhookDelivery) (sends : List Send) : Prop where
  cycle : ∀ cycle, inCycle sends cycle ≤ d.maxAttempts
  total : sends.length ≤ (d.manualReplayLimit + 1) * d.maxAttempts

/-- The requests that a delivery may have sent: an open one no more than its attempts. -/
structure Budgeted (d : WebhookDelivery) (sends : List Send) : Prop where
  positive : 0 < d.maxAttempts
  cycles : ∀ send ∈ sends, send.cycle ≤ d.manualReplayCount
  cycle : ∀ cycle, inCycle sends cycle ≤ d.maxAttempts
  current : d.state ∈ openStates →
    inCycle sends d.manualReplayCount ≤ d.cycleAttemptCount ∧ d.cycleAttemptCount < d.maxAttempts
  total : sends.length ≤ d.manualReplayCount * d.maxAttempts +
    if d.state ∈ openStates then d.cycleAttemptCount else d.maxAttempts

section Budgeted

variable {texts : WebhookTexts} {env : WorkerEnvironment} {d e : WebhookDelivery}
  {sends sent : List Send}

theorem inCycle_append (sends sent : List Send) (cycle : Nat) :
    inCycle (sends ++ sent) cycle = inCycle sends cycle + inCycle sent cycle := by
  simp [inCycle]

theorem inCycle_le_length (sends : List Send) (cycle : Nat) : inCycle sends cycle ≤ sends.length :=
  length_filter_le _ _

theorem inCycle_eq_zero {cycle current : Nat} (h : ∀ send ∈ sent, send.cycle = current)
    (hne : cycle ≠ current) : inCycle sent cycle = 0 := by
  unfold inCycle
  rw [length_eq_zero_iff, filter_eq_nil_iff]
  intro send hsend
  simp only [decide_eq_true_eq]
  rw [h send hsend]
  exact hne.symm

/-- The requests of a run belong to the current cycle of an open delivery, which has room for them. -/
theorem Budgeted.cycle_append (h : Budgeted d sends) (hopen : d.state ∈ openStates)
    (hsent : ∀ send ∈ sent, send.cycle = d.manualReplayCount) (hfew : sent.length ≤ 1)
    (cycle : Nat) : inCycle (sends ++ sent) cycle ≤ d.maxAttempts := by
  have hcurrent := h.current hopen
  rw [inCycle_append]
  by_cases hcycle : cycle = d.manualReplayCount
  · have hone := inCycle_le_length sent cycle
    rw [hcycle] at hone ⊢
    omega
  · rw [inCycle_eq_zero hsent hcycle]
    exact h.cycle cycle

theorem cycles_append (h : Budgeted d sends) (hsent : ∀ send ∈ sent, send.cycle = d.manualReplayCount) :
    ∀ send ∈ sends ++ sent, send.cycle ≤ d.manualReplayCount := by
  intro send hsend
  rcases mem_append.1 hsend with hsend | hsend
  · exact h.cycles send hsend
  · exact Nat.le_of_eq (hsent send hsend)

section

variable (h : Budgeted d sends) (hopen : d.state ∈ openStates)
    (hsent : ∀ send ∈ sent, send.cycle = d.manualReplayCount) (hfew : sent.length ≤ 1)

include h hopen hsent hfew

/-- A run that closes the delivery. -/
theorem Budgeted.close (hclosed : e.state ∉ openStates) (hmax : e.maxAttempts = d.maxAttempts)
    (hreplays : e.manualReplayCount = d.manualReplayCount) : Budgeted e (sends ++ sent) where
  positive := hmax ▸ h.positive
  cycles := hreplays ▸ cycles_append h hsent
  cycle := hmax ▸ h.cycle_append hopen hsent hfew
  current := fun hstate => absurd hstate hclosed
  total := by
    have htotal := h.total
    have hcurrent := h.current hopen
    rw [if_pos hopen] at htotal
    rw [hmax, hreplays, if_neg hclosed, length_append]
    omega

/-- A run that counts an attempt and leaves the delivery open. -/
theorem Budgeted.again (hstill : e.state ∈ openStates) (hmax : e.maxAttempts = d.maxAttempts)
    (hreplays : e.manualReplayCount = d.manualReplayCount)
    (hcount : e.cycleAttemptCount = d.cycleAttemptCount + 1)
    (hroom : d.cycleAttemptCount + 1 < d.maxAttempts) : Budgeted e (sends ++ sent) where
  positive := hmax ▸ h.positive
  cycles := hreplays ▸ cycles_append h hsent
  cycle := hmax ▸ h.cycle_append hopen hsent hfew
  current := by
    intro _
    have hcurrent := h.current hopen
    have hone := inCycle_le_length sent d.manualReplayCount
    rw [hreplays, hcount, hmax, inCycle_append]
    omega
  total := by
    have htotal := h.total
    rw [if_pos hopen] at htotal
    rw [hmax, hreplays, if_pos hstill, hcount, length_append]
    omega

end

theorem budgeted_replay (h : Budgeted d sends) : Budgeted (d.replay now) sends where
  positive := h.positive
  cycles send hsend := Nat.le_succ_of_le (h.cycles send hsend)
  cycle := h.cycle
  current := by
    intro _
    have hzero : inCycle sends (d.manualReplayCount + 1) = 0 := by
      unfold inCycle
      rw [length_eq_zero_iff, filter_eq_nil_iff]
      intro send hsend
      have hcycle := h.cycles send hsend
      simp only [decide_eq_true_eq]
      omega
    exact ⟨Nat.le_of_eq hzero, h.positive⟩
  total := by
    have htotal := h.total
    have hopen : (d.replay now).state ∈ openStates := pending_open
    rw [if_pos hopen]
    show sends.length ≤ (d.manualReplayCount + 1) * d.maxAttempts + 0
    rw [Nat.succ_mul]
    split at htotal
    · next hstate =>
      have hcurrent := (h.current hstate).2
      omega
    · omega

theorem budgeted_new (id : Uuid) {data : WebhookEventCreate} (hpositive : 0 < data.maxAttempts)
    (now : Int) : Budgeted (newDelivery id data now) [] where
  positive := hpositive
  cycles := nofun
  cycle _ := Nat.zero_le _
  current _ := ⟨Nat.zero_le _, hpositive⟩
  total := Nat.zero_le _

theorem withinLimits_of_budgeted (h : Budgeted d sends)
    (hreplays : d.manualReplayCount ≤ d.manualReplayLimit) : WithinLimits d sends where
  cycle := h.cycle
  total := by
    have htotal := h.total
    have hbound : sends.length ≤ (d.manualReplayCount + 1) * d.maxAttempts := by
      rw [Nat.succ_mul]
      split at htotal
      · next hstate =>
        have hcurrent := (h.current hstate).2
        omega
      · exact htotal
    exact hbound.trans (Nat.mul_le_mul_right _ (Nat.succ_le_succ hreplays))

/-! ## Answers that can be stored -/

/-- What the transport answers to the delivery can be stored, and so can the number of the attempt
and its moment. -/
structure StorableAnswer (env : WorkerEnvironment) (d : WebhookDelivery) : Prop where
  attempts : (d.attemptCount : Int) < maxInteger
  clock : timestampOf env.now ≤ maxInteger
  addresses : ∀ addresses, env.resolved = .ok addresses → addresses.all storableText = true
  result : ∀ result, env.answer = .ok result → result.durationMs ≤ maxInteger ∧
    (result.headersMasked.all fun header => storableText header.1 && storableText header.2) = true ∧
    result.bodyPreviewMasked.all storableText = true ∧
    result.transportErrorCode.all storableText = true
  failure : ∀ failure, env.answer = .error failure → storableText (failureCode failure) = true

theorem storableText_cutCode {code : String} (h : storableText code = true) :
    storableText (cutCode code) = true := by
  have hnone := of_decide_eq_true h
  refine decide_eq_true fun hmem => hnone ?_
  unfold cutCode at hmem
  rw [String.toList_ofList] at hmem
  exact mem_of_mem_take hmem

theorem storable_failedResult {failure : Failure} (h : storableText (failureCode failure) = true) :
    (failedResult failure).durationMs ≤ maxInteger ∧
      ((failedResult failure).headersMasked.all fun header =>
        storableText header.1 && storableText header.2) = true ∧
      (failedResult failure).bodyPreviewMasked.all storableText = true ∧
      (failedResult failure).transportErrorCode.all storableText = true :=
  ⟨(by decide : (0 : Int) ≤ maxInteger), rfl, rfl, storableText_cutCode h⟩

theorem storable_acceptedResult (h : StorableAnswer env d) :
    (acceptedResult env.answer).durationMs ≤ maxInteger ∧
      ((acceptedResult env.answer).headersMasked.all fun header =>
        storableText header.1 && storableText header.2) = true ∧
      (acceptedResult env.answer).bodyPreviewMasked.all storableText = true ∧
      (acceptedResult env.answer).transportErrorCode.all storableText = true := by
  unfold acceptedResult
  cases hanswer : env.answer with
  | error failure => exact storable_failedResult (h.failure failure hanswer)
  | ok result =>
    dsimp only
    split
    · exact h.result result hanswer
    · exact storable_failedResult (by decide +kernel)

theorem recordable_of_storableAnswer {s : WebhookSession} (h : StorableAnswer env s.delivery)
    {request : WebhookTransportRequest} (hprepared : preparedRequest texts env s = some request) :
    recordable texts env s = true := by
  have hresult : resultOf texts env s = acceptedResult env.answer := by
    unfold preparedRequest at hprepared
    unfold resultOf
    cases hrequest : prepareRequest texts env s.delivery s.endpoint with
    | error failure =>
      rw [hrequest] at hprepared
      cases hprepared
    | ok request => rfl
  obtain ⟨hduration, hheaders, hpreview, hcode⟩ := storable_acceptedResult h
  have haddresses : (env.resolved.toOption.getD []).all storableText = true := by
    cases hresolved : env.resolved with
    | error failure => rfl
    | ok addresses => exact h.addresses addresses hresolved
  have hattempts : ((s.delivery.attemptCount + 1 : Nat) : Int) ≤ maxInteger := by
    have hcount := h.attempts
    omega
  unfold recordable
  rw [hresult]
  simp only [storableAttempt, attemptRow, hheaders, hpreview, hcode, haddresses, Bool.and_true,
    Bool.and_eq_true]
  exact ⟨⟨decide_eq_true hattempts, decide_eq_true h.clock⟩, decide_eq_true hduration⟩

/-- An attempt is retried only while the cycle has attempts left. -/
theorem room_of_retry {success retryable : Bool} {attemptNo maxAttempts : Nat}
    (h : attemptOutcome success retryable attemptNo maxAttempts = .retryableFailure) :
    attemptNo < maxAttempts := by
  unfold attemptOutcome at h
  split at h
  · cases h
  · split at h
    · next hretry => exact hretry.2
    · cases h

theorem budgeted_run {s : WebhookSession} (h : Budgeted s.delivery sends)
    (hend : RunEnd texts env s committed t) (hadds : Adds s t sent)
    (hstorable : Due env s.delivery s.endpoint → StorableAnswer env s.delivery) :
    Budgeted t.delivery (sends ++ sent) := by
  have hown : ∀ send ∈ sent, send.cycle = s.delivery.manualReplayCount :=
    fun send hsend => (hadds.own send hsend).2
  cases hend with
  | idle hidle =>
    have hnone : sent = [] := append_cancel_left (hadds.sends.symm.trans (append_nil _).symm)
    rw [hnone, append_nil]
    exact h
  | cancelled hopen hdue hclosed => exact h.close hopen hown hadds.few cancelled_closed rfl rfl
  | refused hdue hunstorable =>
    have hsent : sent = sentBy texts env s := append_cancel_left hadds.sends.symm
    rcases sentBy_cases texts env s with hnone | ⟨request, hprepared, -⟩
    · rw [hsent, hnone, append_nil]
      exact h
    · rw [recordable_of_storableAnswer (hstorable hdue) hprepared] at hunstorable
      cases hunstorable
  | unjudged hdue hjudged =>
    exact h.close hdue.isOpen hown hadds.few deadLettered_closed rfl rfl
  | unscheduled hdue hjudged houtcome hnext hstored =>
    exact h.close hdue.isOpen hown hadds.few deadLettered_closed rfl rfl
  | settled hdue hjudged houtcome hnext hstored =>
    rename_i judged outcome next
    cases outcome with
    | succeeded => exact h.close hdue.isOpen hown hadds.few delivered_closed rfl rfl
    | finalFailure => exact h.close hdue.isOpen hown hadds.few deadLettered_closed rfl rfl
    | retryableFailure =>
      exact h.again hdue.isOpen hown hadds.few retryWait_open rfl rfl rfl (room_of_retry houtcome)

end Budgeted

/-! ## Runs of the desk -/

section Desk

variable {texts : WebhookTexts} {s : WebhookDesk} {delivery : WebhookDelivery}

theorem ids_updateRow (id : Uuid) {f : WebhookDelivery → WebhookDelivery}
    (hf : ∀ row ∈ s.deliveries, row.id = id → (f row).id = id) :
    (updateRow WebhookDelivery.id id f s.deliveries).map WebhookDelivery.id =
      s.deliveries.map WebhookDelivery.id := by
  unfold updateRow
  rw [map_map]
  refine map_congr_left fun row hrow => ?_
  show (if row.id = id then f row else row).id = row.id
  split
  · next hid => exact (hf row hrow hid).trans hid.symm
  · rfl

theorem invariant_commit (h : DeskInvariant s) (hmem : delivery ∈ s.deliveries) {sent : List Send}
    (hadds : Adds (s.session delivery) t sent) : DeskInvariant (s.commit t) := by
  have hids : (s.commit t).deliveries.map WebhookDelivery.id =
      s.deliveries.map WebhookDelivery.id := ids_updateRow _ fun _ _ _ => rfl
  have hown : delivery.id ∈ s.deliveries.map WebhookDelivery.id := mem_map_of_mem hmem
  have hsends : (s.commit t).sends = s.sends ++ sent := hadds.sends
  constructor
  · unfold Keyed
    rw [hids]
    exact h.keyed
  · intro row hrow
    rw [hids]
    rcases mem_append.1 hrow with hrow | hrow
    · exact h.attempts row hrow
    · rw [hadds.added row hrow]
      exact hown
  · intro send hsend
    rw [hids]
    rw [hsends] at hsend
    rcases mem_append.1 hsend with hsend | hsend
    · exact h.sends send hsend
    · rw [(hadds.own send hsend).1]
      exact hown

theorem invariant_replay (h : DeskInvariant s) (id : Uuid) (now : Int) : DeskInvariant
      { s with deliveries := updateRow WebhookDelivery.id id (·.replay now) s.deliveries } := by
  have hids : (updateRow WebhookDelivery.id id (·.replay now) s.deliveries).map
      WebhookDelivery.id = s.deliveries.map WebhookDelivery.id := ids_updateRow id fun _ _ hid => hid
  constructor
  · unfold Keyed
    rw [hids]
    exact h.keyed
  · intro row hrow
    rw [hids]
    exact h.attempts row hrow
  · intro send hsend
    rw [hids]
    exact h.sends send hsend

theorem find_none_iff : s.find id = none ↔ id ∉ s.deliveries.map WebhookDelivery.id := by
  simp [WebhookDesk.find]

theorem invariant_create (h : DeskInvariant s) (hfresh : s.find id = none) (data : WebhookEventCreate)
    (now : Int) : DeskInvariant { s with deliveries := s.deliveries ++ [newDelivery id data now] } := by
  have hids : (s.deliveries ++ [newDelivery id data now]).map WebhookDelivery.id =
      s.deliveries.map WebhookDelivery.id ++ [id] := map_append
  constructor
  · refine h.keyed.append_row fun other hother hid => ?_
    have hkey : other.id = id := hid
    exact find_none_iff.1 hfresh (hkey ▸ mem_map_of_mem hother)
  · intro row hrow
    rw [hids]
    exact mem_append_left _ (h.attempts row hrow)
  · intro send hsend
    rw [hids]
    exact mem_append_left _ (h.sends send hsend)

/-- An unknown id has neither attempts nor requests. -/
theorem nothing_of_fresh (h : DeskInvariant s) (hfresh : s.find id = none) :
    rowsOf s id = [] ∧ sendsTo s id = [] := by
  have hunknown := find_none_iff.1 hfresh
  constructor
  · refine filter_eq_nil_iff.2 fun row hrow hid => hunknown ?_
    rw [← of_decide_eq_true hid]
    exact h.attempts row hrow
  · refine filter_eq_nil_iff.2 fun send hsend hid => hunknown ?_
    rw [← of_decide_eq_true hid]
    exact h.sends send hsend

/-- What an action does, by its cases; every refused action leaves the desk alone. -/
inductive StepCase (texts : WebhookTexts) (s : WebhookDesk) : WebhookAction → WebhookDesk → Prop where
  | unchanged (a : WebhookAction) : StepCase texts s a s
  | created {id : Uuid} {data : WebhookEventCreate} {now : Int} (haccepted : data.Accepted texts)
    (hfresh : s.find id = none) : StepCase texts s (.create id data now)
      { s with deliveries := s.deliveries ++ [newDelivery id data now] }
  | replayed {id : Uuid} {now : Int} {delivery : WebhookDelivery}
    (hfind : s.find id = some delivery)
    (hlimit : delivery.manualReplayCount < delivery.manualReplayLimit)
    (hactive : s.endpoint.state = .active) : StepCase texts s (.replay id now)
      { s with deliveries := updateRow WebhookDelivery.id id (·.replay now) s.deliveries }
  | delivered {id : Uuid} {env : WorkerEnvironment} {delivery : WebhookDelivery}
    {t : WebhookSession} {committed : Bool} {sent : List Send}
    (hfind : s.find id = some delivery)
    (hend : RunEnd texts env (s.session delivery) committed t)
    (hadds : Adds (s.session delivery) t sent) :
    StepCase texts s (.deliver id env) (s.commit t)

theorem stepWebhook_cases (texts : WebhookTexts) (h : DeskInvariant s) (a : WebhookAction) :
    StepCase texts s a (stepWebhook texts s a) := by
  cases a with
  | create id data now =>
    show StepCase texts s (.create id data now) (createDelivery texts s id data now)
    unfold createDelivery
    split
    · next hnew => exact .created hnew.1 hnew.2.2.2
    · exact .unchanged _
  | deliver id env =>
    show StepCase texts s (.deliver id env) (deliverWebhook texts s id env)
    cases hfind : s.find id with
    | none =>
      rw [deliverWebhook_absent hfind]
      exact .unchanged _
    | some delivery =>
      have hend : RunEnd texts env (s.session delivery) _ _ :=
        runWebhookDelivery_ends (opened_session s delivery)
      obtain ⟨sent, hadds⟩ := hend.adds (opened_session s delivery)
      rw [deliverWebhook_found h.keyed hfind]
      exact .delivered hfind hend hadds
  | replay id now =>
    show StepCase texts s (.replay id now) ((replayDelivery s id now).toOption.getD s)
    cases hreplay : replayDelivery s id now with
    | error failure => exact .unchanged _
    | ok t =>
      unfold replayDelivery at hreplay
      cases hfind : s.find id with
      | none =>
        rw [hfind] at hreplay
        cases hreplay
      | some delivery =>
        rw [hfind] at hreplay
        obtain ⟨_, hlimit, hreplay⟩ := bind_ok hreplay
        obtain ⟨_, hactive, hreplay⟩ := bind_ok hreplay
        cases hreplay
        exact .replayed hfind (require_ok hlimit) (require_ok hactive)

theorem invariant_step (h : DeskInvariant s) {t : WebhookDesk} (hcase : StepCase texts s a t) :
    DeskInvariant t := by
  cases hcase with
  | unchanged a => exact h
  | created haccepted hfresh => exact invariant_create h hfresh _ _
  | replayed hfind hlimit hactive => exact invariant_replay h _ _
  | delivered hfind hend hadds => exact invariant_commit h (find_mem hfind).1 hadds

/-- A property that every run of the task, every accepted replay and every new delivery keeps. -/
theorem everywhere_step {P : WebhookDelivery → List WebhookDeliveryAttempt → List Send → Prop}
    (h : DeskInvariant s) (hs : Everywhere P s) {t : WebhookDesk} (hcase : StepCase texts s a t)
    (hnew : ∀ id data now, data.Accepted texts → P (newDelivery id data now) [] [])
    (hreplay : ∀ d rows sends now, d.manualReplayCount < d.manualReplayLimit → P d rows sends →
      P (d.replay now) rows sends)
    (hrun : ∀ id env delivery u committed sent, a = .deliver id env → s.find id = some delivery →
      RunEnd texts env (s.session delivery) committed u → Adds (s.session delivery) u sent →
      P delivery (rowsOf s delivery.id) (sendsTo s delivery.id) →
      P u.delivery (rowsOf s delivery.id ++ u.added) (sendsTo s delivery.id ++ sent)) :
    Everywhere P t := by
  cases hcase with
  | unchanged a => exact hs
  | created haccepted hfresh =>
    rename_i id data now
    intro delivery hdelivery
    rcases mem_append.1 hdelivery with hdelivery | hdelivery
    · exact hs delivery hdelivery
    · obtain ⟨hrows, hsends⟩ := nothing_of_fresh h hfresh
      rw [mem_singleton.1 hdelivery]
      show P (newDelivery id data now) (rowsOf s id) (sendsTo s id)
      rw [hrows, hsends]
      exact hnew id data now haccepted
  | replayed hfind hlimit hactive =>
    rename_i id now found
    refine everywhere_replay hs fun delivery hdelivery hid => ?_
    have hsame : delivery = found :=
      h.keyed.eq_of_key_eq hdelivery (find_mem hfind).1 (hid.trans (find_mem hfind).2.symm)
    have hP := hs delivery hdelivery
    rw [hid] at hP
    exact hreplay delivery _ _ now (hsame ▸ hlimit) hP
  | delivered hfind hend hadds =>
    exact everywhere_commit hs hend.samePlan hadds
      (hrun _ _ _ _ _ _ rfl hfind hend hadds (hs _ (find_mem hfind).1))

end Desk

/-! ## What holds of every run -/

/-- A step that sends a request takes an open delivery that is due, to an active endpoint, and sends
one request in its current cycle. -/
def SendsDue (texts : WebhookTexts) (s : WebhookDesk) (a : WebhookAction) : Prop :=
  (stepWebhook texts s a).sends = s.sends ∨ ∃ id env delivery request,
    a = .deliver id env ∧ s.find id = some delivery ∧ Due env delivery s.endpoint ∧
      (stepWebhook texts s a).sends = s.sends ++ [⟨id, delivery.manualReplayCount, env.now, request⟩]

/-- A closed delivery is left only by a replay, within the limit and of an active endpoint. -/
def ClosedKept (texts : WebhookTexts) (s : WebhookDesk) (a : WebhookAction) : Prop :=
  ∀ delivery ∈ s.deliveries, delivery.state ∉ openStates →
    delivery ∈ (stepWebhook texts s a).deliveries ∨ ∃ now, a = .replay delivery.id now ∧
      delivery.manualReplayCount < delivery.manualReplayLimit ∧ s.endpoint.state = .active ∧
      delivery.replay now ∈ (stepWebhook texts s a).deliveries

/-- The answers to the deliveries that are due can be stored. -/
def AnswersStorable (s : WebhookDesk) : WebhookAction → Prop
  | .deliver id env => ∀ delivery, s.find id = some delivery → Due env delivery s.endpoint →
      StorableAnswer env delivery
  | _ => True

section Claim

variable {texts : WebhookTexts} {s : WebhookDesk}

section

variable {env : WorkerEnvironment} {u : WebhookSession} (h : RunEnd texts env u committed t)

include h

/-- Only a due delivery to an active endpoint sends. -/
theorem RunEnd.due_of_sent (hsent : t.sends ≠ u.sends) :
    Due env u.delivery u.endpoint ∧ t.sends = u.sends ++ sentBy texts env u := by
  cases h with
  | idle h => exact absurd rfl hsent
  | cancelled hopen hdue hclosed => exact absurd rfl hsent
  | refused hdue hunstorable => exact ⟨hdue, rfl⟩
  | unjudged hdue hjudged => exact ⟨hdue, rfl⟩
  | unscheduled hdue hjudged houtcome hnext hstorable => exact ⟨hdue, rfl⟩
  | settled hdue hjudged houtcome hnext hstorable => exact ⟨hdue, rfl⟩

theorem RunEnd.delivery_of_closed (hclosed : u.delivery.state ∉ openStates) : t.delivery = u.delivery := by
  cases h with
  | idle h => rfl
  | cancelled hopen hdue hactive => exact absurd hopen hclosed
  | refused hdue hunstorable => rfl
  | unjudged hdue hjudged => exact absurd hdue.isOpen hclosed
  | unscheduled hdue hjudged houtcome hnext hstorable => exact absurd hdue.isOpen hclosed
  | settled hdue hjudged houtcome hnext hstorable => exact absurd hdue.isOpen hclosed

end

theorem sendsDue_step (h : DeskInvariant s) (a : WebhookAction) : SendsDue texts s a := by
  have hcase := stepWebhook_cases texts h a
  unfold SendsDue
  generalize stepWebhook texts s a = u at hcase ⊢
  cases hcase with
  | unchanged a => exact .inl rfl
  | created haccepted hfresh => exact .inl rfl
  | replayed hfind hlimit hactive => exact .inl rfl
  | delivered hfind hend hadds =>
    rename_i id env delivery t committed sent
    by_cases hsent : t.sends = s.sends
    · exact .inl hsent
    · obtain ⟨hdue, hsends⟩ := hend.due_of_sent hsent
      rcases sentBy_cases texts env (s.session delivery) with hnone | ⟨request, -, hone⟩
      · rw [hnone, append_nil] at hsends
        exact absurd hsends hsent
      · rw [hone] at hsends
        have hid : delivery.id = id := (find_mem hfind).2
        exact .inr ⟨id, env, delivery, request, rfl, hfind, hdue, hid ▸ hsends⟩

theorem closedKept_step (h : DeskInvariant s) (a : WebhookAction) : ClosedKept texts s a := by
  have hcase := stepWebhook_cases texts h a
  intro delivery hmem hclosed
  generalize stepWebhook texts s a = u at hcase ⊢
  cases hcase with
  | unchanged a => exact .inl hmem
  | created haccepted hfresh => exact .inl (mem_append_left _ hmem)
  | replayed hfind hlimit hactive =>
    rename_i id now found
    by_cases hid : delivery.id = id
    · have hsame : delivery = found :=
        h.keyed.eq_of_key_eq hmem (find_mem hfind).1 (hid.trans (find_mem hfind).2.symm)
      exact .inr ⟨now, hid ▸ rfl, hsame ▸ hlimit, hactive, mem_updateRow_of_mem hmem hid⟩
    · exact .inl (mem_updateRow_of_ne hmem hid)
  | delivered hfind hend hadds =>
    rename_i id env found t committed sent
    left
    by_cases hid : delivery.id = t.delivery.id
    · have hsame : delivery = found :=
        h.keyed.eq_of_key_eq hmem (find_mem hfind).1 (hid.trans hend.samePlan.id)
      have hkept : t.delivery = delivery := by
        subst hsame
        exact hend.delivery_of_closed hclosed
      have hrow := mem_updateRow_of_mem (f := fun _ => t.delivery) hmem hid
      exact hkept ▸ hrow
    · exact mem_updateRow_of_ne hmem hid

theorem traced_step (h : DeskInvariant s ∧ Everywhere Traced s) (a : WebhookAction) :
    DeskInvariant (stepWebhook texts s a) ∧ Everywhere Traced (stepWebhook texts s a) := by
  have hcase := stepWebhook_cases texts h.1 a
  refine ⟨invariant_step h.1 hcase, everywhere_step h.1 h.2 hcase ?_ ?_ ?_⟩
  · exact fun id data now _ => traced_new id data now
  · exact fun d rows sends now hlimit hd => traced_replay hd hlimit
  · intro id env delivery u committed sent _ _ hend _ hd
    exact traced_run (opened_session s delivery) hd hend

theorem budgeted_step (h : DeskInvariant s ∧ Everywhere (fun d _ sends => Budgeted d sends) s)
    (hstorable : AnswersStorable s a) : DeskInvariant (stepWebhook texts s a) ∧
      Everywhere (fun d _ sends => Budgeted d sends) (stepWebhook texts s a) := by
  have hcase := stepWebhook_cases texts h.1 a
  refine ⟨invariant_step h.1 hcase, everywhere_step h.1 h.2 hcase ?_ ?_ ?_⟩
  · exact fun id data now haccepted => budgeted_new id haccepted.1 now
  · exact fun d rows sends now _ hd => budgeted_replay hd
  · rintro id env delivery u committed sent rfl hfind hend hadds hd
    exact budgeted_run hd hend hadds (hstorable delivery hfind)

theorem invariant_registered (h : Registered s) : DeskInvariant s := by
  constructor
  · unfold Keyed
    rw [h.deliveries]
    exact nodup_nil
  · rw [h.attempts]
    exact nofun
  · rw [h.sends]
    exact nofun

theorem everywhere_registered (h : Registered s)
    (P : WebhookDelivery → List WebhookDeliveryAttempt → List Send → Prop) : Everywhere P s := by
  intro delivery hdelivery
  rw [h.deliveries] at hdelivery
  cases hdelivery

/-- Over every run of a registered endpoint's deliveries: only a due delivery sends, to an active
endpoint; a closed delivery is left by a replay only; the attempts are numbered without gaps, and a
delivery is delivered if its last attempt succeeded in the current cycle.  While the answers of the
transport can be stored, no replay cycle sends more requests than the delivery may attempt, and all
of them no more than the replay limit allows. -/
theorem webhook_sends_bounded (hs : Registered s) (actions : List WebhookAction) :
    Along (stepWebhook texts) (fun s a => SendsDue texts s a ∧ ClosedKept texts s a) s actions ∧
    (∀ delivery ∈ (run (stepWebhook texts) s actions).deliveries,
      ((rowsOf (run (stepWebhook texts) s actions) delivery.id).map
        WebhookDeliveryAttempt.attemptNo = List.range' 1 delivery.attemptCount) ∧
      (delivery.state = .delivered ↔ ∃ row,
        (rowsOf (run (stepWebhook texts) s actions) delivery.id).getLast? = some row ∧
          row.outcome = .succeeded ∧ row.deliveryCycle = delivery.manualReplayCount)) ∧
    (Along (stepWebhook texts) AnswersStorable s actions →
      ∀ delivery ∈ (run (stepWebhook texts) s actions).deliveries,
        WithinLimits delivery (sendsTo (run (stepWebhook texts) s actions) delivery.id)) := by
  have hinvariant := invariant_registered hs
  have htraced : Everywhere Traced (run (stepWebhook texts) s actions) :=
    (invariant_run (I := fun s => DeskInvariant s ∧ Everywhere Traced s) (stepWebhook texts)
      (fun s a h => traced_step h a) ⟨hinvariant, everywhere_registered hs Traced⟩ actions).2
  refine ⟨?_, fun delivery hdelivery => ?_, fun hstorable delivery hdelivery => ?_⟩
  · exact along_of_invariant (I := DeskInvariant) (P := fun _ _ => True) (stepWebhook texts)
      (fun s a h _ => invariant_step h (stepWebhook_cases texts h a))
      (fun s a h _ => ⟨sendsDue_step h a, closedKept_step h a⟩) hinvariant
      (along_of_always _ (fun _ _ => trivial) _ _)
  · have h := htraced delivery hdelivery
    exact ⟨h.numbered, h.latest⟩
  · have hbudgeted : Everywhere (fun d _ sends => Budgeted d sends)
        (run (stepWebhook texts) s actions) :=
      (invariant_along
        (I := fun s => DeskInvariant s ∧ Everywhere (fun d _ sends => Budgeted d sends) s)
        (stepWebhook texts) (fun s a h hstorable => budgeted_step h hstorable)
        ⟨hinvariant, everywhere_registered hs _⟩ hstorable).2
    exact withinLimits_of_budgeted (hbudgeted delivery hdelivery) (htraced delivery hdelivery).replays

end Claim

def takenUpTwice (answer : WebhookTransportResult) : List WebhookAction :=
  [.create 1 sampleData 0, .deliver 1 (sampleEnvironment answer), .deliver 1 (sampleEnvironment answer)]

theorem answersStorable_sample : Along (stepWebhook sampleWebhookTexts) AnswersStorable
    sampleWebhookDesk (takenUpTwice (sampleAnswer 200 "ok")) := by
  have hstorable : ∀ delivery : WebhookDelivery, (delivery.attemptCount : Int) < maxInteger →
      StorableAnswer (sampleEnvironment (sampleAnswer 200 "ok")) delivery := by
    intro delivery hattempts
    refine ⟨hattempts, by decide, ?_, ?_, nofun⟩
    · intro addresses haddresses
      cases haddresses
      decide
    · intro result hresult
      cases hresult
      decide
  have hcounts : ∀ s : WebhookDesk, (s.deliveries.all fun row => row.attemptCount ≤ 1) = true →
      ∀ delivery, s.find 1 = some delivery → (delivery.attemptCount : Int) < maxInteger := by
    intro s hall delivery hfind
    have hle : delivery.attemptCount ≤ 1 :=
      of_decide_eq_true (all_eq_true.1 hall delivery (find_mem hfind).1)
    unfold maxInteger
    omega
  refine ⟨trivial, fun delivery hfind _ => ?_, fun delivery hfind _ => ?_, trivial⟩
  · exact hstorable delivery (hcounts _ (by decide +kernel) delivery hfind)
  · exact hstorable delivery (hcounts _ (by decide +kernel) delivery hfind)

theorem webhook_sends_sample : Registered sampleWebhookDesk ∧
    ∀ delivery ∈ (run (stepWebhook sampleWebhookTexts) sampleWebhookDesk
      (takenUpTwice (sampleAnswer 200 "ok"))).deliveries, WithinLimits delivery
      (sendsTo (run (stepWebhook sampleWebhookTexts) sampleWebhookDesk
        (takenUpTwice (sampleAnswer 200 "ok"))) delivery.id) :=
  ⟨registered_sample, (webhook_sends_bounded registered_sample _).2.2 answersStorable_sample⟩

/-- An answer whose preview holds a zero character is sent for, rolled back and sent for again. -/
theorem webhook_sent_again : Registered sampleWebhookDesk ∧
    ∃ delivery ∈ (run (stepWebhook sampleWebhookTexts) sampleWebhookDesk
      (takenUpTwice (sampleAnswer 200 (String.ofList [Char.ofNat 0])))).deliveries,
      ¬WithinLimits delivery (sendsTo (run (stepWebhook sampleWebhookTexts) sampleWebhookDesk
        (takenUpTwice (sampleAnswer 200 (String.ofList [Char.ofNat 0])))) delivery.id) := by
  have hmem : newDelivery 1 sampleData 0 ∈ (run (stepWebhook sampleWebhookTexts) sampleWebhookDesk
      (takenUpTwice (sampleAnswer 200 (String.ofList [Char.ofNat 0])))).deliveries := by
    decide +kernel
  refine ⟨registered_sample, _, hmem, fun hlimits => ?_⟩
  exact absurd hlimits.total (by decide +kernel)

end BlogOps.Developer
