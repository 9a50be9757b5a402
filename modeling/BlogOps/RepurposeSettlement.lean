import BlogOps.RepurposeDeliveries

/-!
# The settlement of repurposing jobs

A job is settled with its hold in the delivery that ends it, and every later
delivery replays that settlement.  It holds together exactly as long as the costs
that a delivery records are a multiple of `0.0001`: the column of the job rounds to
that, while the hold is settled with the unrounded cost.  No created job gets that
far, as none of its deliveries records a cost.
-/

namespace BlogOps.RepurposeJobs

open Billing EffectRules Jobs KeyedTables TransitionRuns List

def endedStates : List JobState := [.waitingReview, .finalFailed, .cancelled]

/-- A job that has ended, or is to be cancelled after all of its items succeeded. -/
def Ended (s : RepurposeSession) : Prop :=
  s.job.state ∈ endedStates ∨ s.job.state = .cancelRequested ∧ allSucceeded s.items = true

/-- The state that the costs of an ended job were settled in. -/
def closingState (s : RepurposeSession) : JobState :=
  if s.job.state = .cancelRequested then .waitingReview
  else costSettlementState s.job.state s.items

/-- The hold of the job records the settlement of its cost. -/
def SettledAs (s : RepurposeSession) : Prop :=
  ∃ holdId quantity row, s.job.budgetReservationRef = some holdId ∧
    meteredQuantity s.job.actualCost = some quantity ∧
    SettledBy holdId (terminalEvent s.job (closingState s) quantity) row s.books

section Settling

variable {d : RepurposeDelivery} {s t : RepurposeSession} {books : MeteredBooks}

theorem mem_settlementStates (h : s.job.state ∈ endedStates) :
    s.job.state ∈ successSettlementStates ++ releaseSettlementStates := by
  simp only [endedStates, mem_cons, not_mem_nil, or_false] at h
  rcases h with h | h | h <;> rw [h] <;> decide

theorem closingState_ended (h : s.job.state ∈ endedStates) :
    closingState s = costSettlementState s.job.state s.items := by
  have hrequested : s.job.state ≠ .cancelRequested := by
    intro hstate
    rw [hstate] at h
    exact absurd h (by decide)
  exact if_neg hrequested

section

variable (hb : BooksInvariant s.books.books) (hstate : s.job.state ∈ endedStates)

include hb hstate

/-- What an ended job is settled with is recorded in its hold. -/
theorem settledAs_of_ok (h : settledBooks d s = .ok books) :
    BooksInvariant books.books ∧ SettledAs { s with books := books } := by
  unfold settledBooks at h
  rw [if_neg (not_not.mpr (mem_settlementStates hstate))] at h
  obtain ⟨holdId, href, h⟩ := bind_ok h
  obtain ⟨quantity, hquantity, h⟩ := bind_ok h
  obtain ⟨⟨row, settled⟩, hsettle, h⟩ := bind_ok h
  cases h
  refine ⟨booksInvariant_settleJob hb hsettle, holdId, quantity, row, ofOption_ok href,
    ofOption_ok hquantity, ?_⟩
  rw [closingState_ended (s := { s with books := settled }) hstate]
  exact settledBy_of_ok hb hsettle

/-- Settling an ended job again changes nothing. -/
theorem settledBooks_again (h : SettledAs s) : settledBooks d s = .ok s.books := by
  obtain ⟨holdId, quantity, row, href, hquantity, hsettled⟩ := h
  rw [closingState_ended hstate] at hsettled
  have hreference : ofOption reservationMissing s.job.budgetReservationRef = .ok holdId := by
    rw [href]
    rfl
  have hmetered : ofOption .validationError (meteredQuantity s.job.actualCost) = .ok quantity := by
    rw [hquantity]
    rfl
  unfold settledBooks settleCost
  rw [if_neg (not_not.mpr (mem_settlementStates hstate)), bind_of_ok hreference,
    bind_of_ok hmetered, bind_of_ok (settleJob_again hb hsettled d.ctx d.occurredAt)]

end

/-- The job after all of its items succeeded: its cancellation keeps the settlement. -/
theorem settledAs_cancelJob (hrequested : s.job.state = .cancelRequested)
    (hall : allSucceeded s.items = true) (h : SettledAs s) : SettledAs (cancelJob s) := by
  obtain ⟨holdId, quantity, row, href, hquantity, hsettled⟩ := h
  refine ⟨holdId, quantity, row, href, hquantity, ?_⟩
  have hclosing : closingState s = .waitingReview := if_pos hrequested
  have hcancelled : closingState (cancelJob s) = .waitingReview := by
    rw [closingState_ended (s := cancelJob s) (by simp [cancelJob, endedStates])]
    unfold costSettlementState
    rw [allSucceeded_cancelJob, hall]
    rfl
  rw [hclosing] at hsettled
  rw [hcancelled]
  exact hsettled

/-- Settlements stay in books that keep closed holds and usage records. -/
theorem SettledAs.kept (h : SettledAs s) (hbooks : Evolves s.books.books books.books)
    (husage : s.books.usage <+: books.usage) : SettledAs { s with books := books } := by
  obtain ⟨holdId, quantity, row, href, hquantity, hsettled⟩ := h
  exact ⟨holdId, quantity, row, href, hquantity, hsettled.kept hbooks husage⟩

theorem SettledAs.hold_kept (h : SettledAs s) (hb : BooksInvariant s.books.books)
    (hbooks : Evolves s.books.books books.books) (husage : s.books.usage <+: books.usage)
    {row : CreditHold} (hrow : row ∈ s.books.books.holds)
    (href : s.job.budgetReservationRef = some row.id) : row ∈ books.books.holds := by
  obtain ⟨holdId, quantity, settled, hsame, -, hsettled⟩ := h
  have hid : row.id = settled.id := by
    rw [hsettled.id]
    exact Option.some.inj (href.symm.trans hsame)
  rw [hb.holds_keyed.eq_of_key_eq hrow hsettled.stored hid]
  exact (hsettled.kept hbooks husage).stored

end Settling

/-- A multiple of `0.0001`. -/
def WholeCost (cost : ℚ) : Prop := ∃ n : Int, cost = n / 10 ^ 4

theorem wholeCost_storedCost (cost : ℚ) : WholeCost (storedCost cost) := ⟨_, rfl⟩

variable {cost : ℚ}

theorem storedCost_whole (h : WholeCost cost) : storedCost cost = cost := by
  obtain ⟨n, rfl⟩ := h
  have hscaled : (n : ℚ) / 10 ^ 4 * 10 ^ 4 + 1 / 2 = n + 1 / 2 := by ring
  have hfloor : ⌊(n : ℚ) + 1 / 2⌋ = n := by
    rw [Int.floor_intCast_add]
    norm_num
  unfold storedCost
  rw [hscaled, hfloor]

theorem WholeCost.add {more : ℚ} (h : WholeCost cost) (h' : WholeCost more) : WholeCost (cost + more) := by
  obtain ⟨n, rfl⟩ := h
  obtain ⟨m, rfl⟩ := h'
  refine ⟨n + m, ?_⟩
  push_cast
  ring

theorem WholeCost.sub {more : ℚ} (h : WholeCost cost) (h' : WholeCost more) : WholeCost (cost - more) := by
  obtain ⟨n, rfl⟩ := h
  obtain ⟨m, rfl⟩ := h'
  refine ⟨n - m, ?_⟩
  push_cast
  ring

theorem commit_whole {s : RepurposeSession} (h : WholeCost s.job.actualCost) : s.commit = s := by
  unfold RepurposeSession.commit
  rw [storedCost_whole h]

section Steps

variable [ResultHashes]

/-- What an action is to leave of the cost of a job and of its settlement. -/
structure SettlesOnce (s : RepurposeSession) (action : RepurposeAction) : Prop where
  total : (stepJob s action).job.actualCost = recordedCost (stepJob s action).variants
  within : (stepJob s action).job.actualCost ≤ (stepJob s action).job.reservedCost
  settled : Ended (stepJob s action) → SettledAs (stepJob s action)
  final : Ended s → Ended (stepJob s action) ∧
    (stepJob s action).job.actualCost = s.job.actualCost ∧
      ∀ row ∈ s.books.books.holds, s.job.budgetReservationRef = some row.id →
        row ∈ (stepJob s action).books.books.holds
  replays : Ended s → ∀ d, action = .deliver d → ∃ after, runJob d s = .ok () after ∧ after.books = s.books

/-- A delivery that commits records variants whose costs are a multiple of `0.0001` together. -/
def RecordsWhole (s : RepurposeSession) : RepurposeAction → Prop
  | .deliver d => ∀ after, runJob d s = .ok () after →
      WholeCost (recordedCost after.variants - recordedCost s.variants)
  | _ => True

/-- What holds of a job between its transactions. -/
structure SettlementInvariant (s : RepurposeSession) : Prop where
  job : JobInvariant s
  total : s.job.actualCost = recordedCost s.variants
  whole : WholeCost s.job.actualCost
  within : s.job.actualCost ≤ s.job.reservedCost
  books : BooksInvariant s.books.books
  settled : Ended s → SettledAs s

section Invariant

variable {d : RepurposeDelivery} {s t : RepurposeSession}

omit [ResultHashes] in
theorem Ended.not_queued (h : Ended s) : s.job.state ≠ .queued := by
  intro hqueued
  rcases h with hstate | ⟨hstate, -⟩ <;> simp [hqueued, endedStates] at hstate

omit [ResultHashes] in
theorem ended_cancelJob : Ended (cancelJob s) := .inl (by simp [cancelJob, endedStates])

theorem runJob_ended (h : SettlementInvariant s) (hended : Ended s) (d : RepurposeDelivery) :
    ∃ after, runJob d s = .ok () after ∧ after.books = s.books := by
  rcases hended with hstate | ⟨hrequested, hall⟩
  · have hidle : s.job.state ≠ .cancelRequested ∧ s.job.state ≠ .queued := by
      simp only [endedStates, mem_cons, not_mem_nil, or_false] at hstate
      rcases hstate with hstate | hstate | hstate <;> simp [hstate]
    have hbooks := settledBooks_again (d := d) h.books hstate (h.settled (.inl hstate))
    rw [runJob_idle hidle.1 hidle.2, settleTerminal_ok hbooks]
    exact ⟨_, rfl, rfl⟩
  · have hsettled := settledAs_cancelJob hrequested hall (h.settled (.inr ⟨hrequested, hall⟩))
    have hbooks := settledBooks_again (d := d) (s := cancelJob s) h.books
      (by simp [cancelJob, endedStates]) hsettled
    rw [runJob_cancelled hrequested, settleTerminal_ok hbooks]
    exact ⟨_, rfl, rfl⟩

omit [ResultHashes] in
/-- A session that is prepared for its settlement, but for the column that its cost is stored in. -/
theorem settlementInvariant_settled {books : MeteredBooks} (hjob : JobInvariant t)
    (htotal : t.job.actualCost = recordedCost t.variants) (hwhole : WholeCost t.job.actualCost)
    (hwithin : t.job.actualCost ≤ t.job.reservedCost) (hb : BooksInvariant t.books.books)
    (hrequested : t.job.state ≠ .cancelRequested) (h : settledBooks d t = .ok books) :
    SettlementInvariant { t with books := books } := by
  by_cases hstate : t.job.state ∈ endedStates
  · obtain ⟨hbooks, hsettled⟩ := settledAs_of_ok hb hstate h
    exact ⟨hjob.withBooks books, htotal, hwhole, hwithin, hbooks, fun _ => hsettled⟩
  · have hlive : t.job.state ∉ successSettlementStates ++ releaseSettlementStates := by
      have hstates := hjob.states
      simp only [endedStates, mem_cons, not_mem_nil, or_false, not_or] at hstate
      simp only [mem_cons, not_mem_nil, or_false] at hstates
      rcases hstates with hstates | hstates | hstates | hstates | hstates | hstates <;>
        simp_all [successSettlementStates, releaseSettlementStates]
    unfold settledBooks at h
    rw [if_pos hlive] at h
    cases h
    refine ⟨hjob.withBooks _, htotal, hwhole, hwithin, hb, ?_⟩
    rintro (hended | ⟨hended, -⟩)
    · exact absurd hended hstate
    · exact absurd hended hrequested

theorem Prepared.costs (hprepared : Prepared d s t) (h : SettlementInvariant s) :
    t.job.actualCost = recordedCost t.variants ∧ t.job.actualCost ≤ t.job.reservedCost ∧
      t.books = s.books ∧ t.job.state ≠ .cancelRequested := by
  have hkeeps : ∀ {u : RepurposeSession}, Extends (startJob s) u →
      u.job.actualCost = recordedCost u.variants ∧ u.job.actualCost ≤ u.job.reservedCost ∧
        u.books = s.books := by
    intro u hkept
    have hcost := hkept.cost
    have htotal : (startJob s).job.actualCost = recordedCost (startJob s).variants := h.total
    rw [htotal, sub_self, sub_eq_zero] at hcost
    exact ⟨hcost, hkept.room h.within, hkept.books⟩
  cases hprepared with
  | cancelled hrequested => exact ⟨h.total, h.within, rfl, by simp [cancelJob]⟩
  | idle hrequested hqueued => exact ⟨h.total, h.within, rfl, hrequested⟩
  | unavailable hqueued code detail => exact ⟨h.total, h.within, rfl, by simp [failJob]⟩
  | completed executor t hqueued hexecutor hexecuted hkept hsound hall =>
    obtain ⟨htotal, hwithin, hbooks⟩ := hkeeps hkept
    exact ⟨htotal, hwithin, hbooks, by simp [reviewed]⟩
  | failed executor failure t hqueued hexecuted hkept hsound husable hopen =>
    obtain ⟨htotal, hwithin, hbooks⟩ := hkeeps hkept
    refine ⟨htotal, hwithin, hbooks, ?_⟩
    cases hretryable : isRetryableRuntimeError failure <;> simp [failJob]

/-- A delivery keeps the invariant when its costs are whole, and what has ended stays as it is. -/
theorem SettlementInvariant.deliver (h : SettlementInvariant s) (hwhole : RecordsWhole s (.deliver d)) :
    SettlementInvariant (stepJob s (.deliver d)) ∧ (Ended s →
      Ended (stepJob s (.deliver d)) ∧ (stepJob s (.deliver d)).job.actualCost = s.job.actualCost ∧
        (stepJob s (.deliver d)).books = s.books) := by
  rw [show stepJob s (.deliver d) = deliverJob s d from rfl]
  unfold deliverJob
  cases hrun : runJob d s with
  | error failure after => exact ⟨h, fun hended => ⟨hended, rfl, rfl⟩⟩
  | ok u after =>
    obtain ⟨t, books, hprepared, hbooks, rfl⟩ := prepared_of_runJob h.job hrun
    obtain ⟨htotal, hwithin, hsame, hrequested⟩ := hprepared.costs h
    have hcost : WholeCost t.job.actualCost := by
      have hadded : WholeCost (recordedCost t.variants - recordedCost s.variants) :=
        hwhole { t with books := books } hrun
      have hstart := h.whole
      rw [h.total] at hstart
      have hsum := hadded.add hstart
      rw [sub_add_cancel, ← htotal] at hsum
      exact hsum
    have hinvariant : SettlementInvariant { t with books := books } :=
      settlementInvariant_settled (hprepared.invariant h.job) htotal hcost hwithin
        (by rw [hsame]; exact h.books) hrequested hbooks
    dsimp only
    rw [commit_whole (s := { t with books := books }) hcost]
    refine ⟨hinvariant, fun hended => ?_⟩
    obtain ⟨after, hagain, hkept⟩ := runJob_ended h hended d
    rw [hrun] at hagain
    cases hagain
    rw [← and_assoc]
    refine ⟨?_, hkept⟩
    cases hprepared with
    | cancelled hasked => exact ⟨ended_cancelJob, rfl⟩
    | idle hasked hqueued => exact ⟨hended, rfl⟩
    | unavailable hqueued => exact absurd hqueued hended.not_queued
    | completed executor t hqueued => exact absurd hqueued hended.not_queued
    | failed executor failure t hqueued => exact absurd hqueued hended.not_queued

omit [ResultHashes] in
/-- A command moves no ended job but one that waits for its review, and that one stays ended. -/
theorem SettlementInvariant.command (h : SettlementInvariant s) {call : CommandCall}
    (hcall : commandJob s call = .ok t) : SettlementInvariant t ∧
      t.job.actualCost = s.job.actualCost ∧ t.books = s.books ∧ (Ended s → Ended t) := by
  have hjob := h.job.command hcall
  rcases commandJob_ok hcall with rfl | ⟨hallowed, rfl⟩
  · exact ⟨h, rfl, rfl, id⟩
  have hstates := h.job.states
  simp only [mem_cons, not_mem_nil, or_false] at hstates
  cases hcommand : call.command with
  | cancel =>
    rw [hcommand] at hallowed hjob
    have hended : Ended { moveJob (commandTarget .cancel) s with
        commands := s.commands ++ [commandRow s.job.state call] } ↔
        allSucceeded s.items = true := by
      simp [Ended, moveJob, commandTarget, endedStates]
    have hreview : allSucceeded s.items = true → s.job.state = .waitingReview := by
      intro hall
      rcases hstates with hstate | hstate | hstate | hstate | hstate | hstate
      · rw [h.job.unfinished (by simp [hstate])] at hall
        cases hall
      · rw [h.job.unfinished (by simp [hstate])] at hall
        cases hall
      · simp [hstate, allowedJobTransitions] at hallowed
      · exact hstate
      · simp [hstate, allowedJobTransitions, commandTarget] at hallowed
      · simp [hstate, allowedJobTransitions] at hallowed
    refine ⟨⟨hjob, h.total, h.whole, h.within, h.books, fun hafter => ?_⟩, rfl, rfl, fun hbefore => ?_⟩
    · have hstate := hreview (hended.mp hafter)
      obtain ⟨holdId, quantity, row, href, hquantity, hsettled⟩ :=
        h.settled (.inl (by simp [hstate, endedStates]))
      have hclosing : closingState s = .waitingReview := by
        rw [closingState_ended (by simp [hstate, endedStates]), hstate]
        rfl
      rw [hclosing] at hsettled
      exact ⟨holdId, quantity, row, href, hquantity, hsettled⟩
    · rw [hended]
      rcases hbefore with hstate | ⟨hstate, -⟩
      · simp only [endedStates, mem_cons, not_mem_nil, or_false] at hstate
        rcases hstate with hstate | hstate | hstate
        · exact h.job.reviewable hstate
        · simp [hstate, allowedJobTransitions] at hallowed
        · simp [hstate, allowedJobTransitions] at hallowed
      · simp [hstate, allowedJobTransitions, commandTarget] at hallowed
  | retry =>
    rw [hcommand] at hallowed hjob
    have hqueued : (moveJob (commandTarget .retry) s).job.state = .queued := rfl
    refine ⟨⟨hjob, h.total, h.whole, h.within, h.books, fun hafter => ?_⟩, rfl, rfl, fun hbefore => ?_⟩
    · exact absurd hqueued hafter.not_queued
    · rcases hbefore with hstate | ⟨hstate, -⟩
      · simp only [endedStates, mem_cons, not_mem_nil, or_false] at hstate
        rcases hstate with hstate | hstate | hstate <;>
          simp [hstate, allowedJobTransitions, commandTarget] at hallowed
      · simp [hstate, allowedJobTransitions, commandTarget] at hallowed

omit [ResultHashes] in
/-- Other calls on the credits of the workspace leave the hold of an ended job alone. -/
theorem SettlementInvariant.withBooks (h : SettlementInvariant s) (books : MeteredBooks)
    (hb : BooksInvariant books.books) (hbooks : Evolves s.books.books books.books)
    (husage : s.books.usage <+: books.usage) :
    SettlementInvariant { s with books := books } ∧ (Ended s → ∀ row ∈ s.books.books.holds,
      s.job.budgetReservationRef = some row.id → row ∈ books.books.holds) :=
  ⟨⟨h.job.withBooks books, h.total, h.whole, h.within, hb,
      fun hended => (h.settled hended).kept hbooks husage⟩,
    fun hended _ hrow href => (h.settled hended).hold_kept h.books hbooks husage hrow href⟩

theorem SettlementInvariant.step (h : SettlementInvariant s) {action : RepurposeAction}
    (hwhole : RecordsWhole s action) : SettlementInvariant (stepJob s action) ∧ SettlesOnce s action := by
  have hsettles : ∀ hnext : SettlementInvariant (stepJob s action),
      (Ended s → Ended (stepJob s action) ∧ (stepJob s action).job.actualCost = s.job.actualCost ∧
        ∀ row ∈ s.books.books.holds, s.job.budgetReservationRef = some row.id →
          row ∈ (stepJob s action).books.books.holds) → SettlesOnce s action :=
    fun hnext hfinal => ⟨hnext.total, hnext.within, hnext.settled, hfinal,
      fun hended d _ => runJob_ended h hended d⟩
  cases action with
  | deliver d =>
    obtain ⟨hnext, hfinal⟩ := h.deliver hwhole
    refine ⟨hnext, hsettles hnext fun hended => ?_⟩
    obtain ⟨hstill, hcost, hbooks⟩ := hfinal hended
    refine ⟨hstill, hcost, fun row hrow _ => ?_⟩
    rw [hbooks]
    exact hrow
  | command call =>
    cases hcall : commandJob s call with
    | ok after =>
      have hafter : stepJob s (.command call) = after := by
        show ((commandJob s call).toOption).getD s = after
        rw [hcall]
        rfl
      obtain ⟨hnext, hcost, hbooks, hended⟩ := h.command hcall
      rw [← hafter] at hnext hcost hbooks hended
      refine ⟨hnext, hsettles hnext fun hbefore => ⟨hended hbefore, hcost, fun row hrow _ => ?_⟩⟩
      rw [hbooks]
      exact hrow
    | error failure =>
      have hafter : stepJob s (.command call) = s := by
        show ((commandJob s call).toOption).getD s = s
        rw [hcall]
        rfl
      rw [hafter] at hsettles ⊢
      exact ⟨h, hsettles h fun hbefore => ⟨hbefore, rfl, fun row hrow _ => hrow⟩⟩
  | credits call =>
    obtain ⟨hnext, hholds⟩ := h.withBooks ⟨transact s.books.books call, s.books.usage⟩
      (booksInvariant_transact s.books.books call h.books)
      ((holdsStep_transact h.books call).evolves h.books) prefix_rfl
    exact ⟨hnext, hsettles hnext fun hbefore => ⟨hbefore, rfl, hholds hbefore⟩⟩
  | meter ctx data =>
    cases hrecord : recordUsage ctx data s.books.usage with
    | ok answer =>
      obtain ⟨record, usage⟩ := answer
      have hafter : stepJob s (.meter ctx data) = { s with books := ⟨s.books.books, usage⟩ } := by
        unfold stepJob
        simp only [hrecord]
      obtain ⟨hnext, hholds⟩ := h.withBooks ⟨s.books.books, usage⟩ h.books (.refl _)
        (recordUsage_extends hrecord)
      rw [hafter] at hsettles ⊢
      exact ⟨hnext, hsettles hnext fun hbefore => ⟨hbefore, rfl, hholds hbefore⟩⟩
    | error failure =>
      have hafter : stepJob s (.meter ctx data) = s := by
        unfold stepJob
        simp only [hrecord]
      rw [hafter] at hsettles ⊢
      exact ⟨h, hsettles h fun hbefore => ⟨hbefore, rfl, fun row hrow _ => hrow⟩⟩

/-- The column of the job cannot hold a cost that is not whole. -/
theorem recordsWhole_of_settlesOnce (h : SettlementInvariant s) {action : RepurposeAction}
    (hsettles : SettlesOnce s action) : RecordsWhole s action := by
  cases action with
  | deliver d =>
    intro after hrun
    have htotal := hsettles.total
    rw [show stepJob s (.deliver d) = deliverJob s d from rfl] at htotal
    unfold deliverJob at htotal
    rw [hrun] at htotal
    have hstored : WholeCost (recordedCost after.variants) := by
      have hvariants : recordedCost after.commit.variants = recordedCost after.variants := rfl
      rw [← hvariants, ← htotal]
      exact wholeCost_storedCost _
    have hstart := h.whole
    rw [h.total] at hstart
    exact hstored.sub hstart
  | command call => trivial
  | credits call => trivial
  | meter ctx data => trivial

omit [ResultHashes] in
theorem settlementInvariant_new (h : NewJob s) : SettlementInvariant s where
  job := jobInvariant_new h
  total := by
    rw [h.cost, h.variants]
    rfl
  whole := ⟨0, by rw [h.cost]; norm_num⟩
  within := by
    rw [h.cost]
    exact h.reserved.1
  books := (boundedBooks_reachable h.books).books
  settled := by
    rintro (hstate | ⟨hstate, -⟩)
    · simp [h.state, endedStates] at hstate
    · simp [h.state] at hstate

end Invariant

/-- In every run of a new job with other calls on its workspace, the cost of the job is what was
recorded, and its hold is settled once for it and replayed, exactly when every delivery records
variants whose costs are a multiple of `0.0001` together. -/
theorem settlesOnce_iff {s : RepurposeSession} (h : NewJob s) (actions : List RepurposeAction) :
    Along stepJob SettlesOnce s actions ↔ Along stepJob RecordsWhole s actions := by
  refine along_iff_along_of_invariant stepJob (I := SettlementInvariant) (R := fun _ _ => True)
    (fun current action hcurrent _ => ⟨fun hsettles => ?_, fun hwhole => ?_⟩)
    (fun current action hcurrent _ hwhole => (hcurrent.step hwhole).1) (settlementInvariant_new h)
    (along_of_always stepJob (fun _ _ => trivial) s actions)
  · exact recordsWhole_of_settlesOnce hcurrent hsettles
  · exact (hcurrent.step hwhole).2

/-- A created job records no variant, as the executor does not find its model configuration. -/
theorem KeylessInvariant.recordsWhole {s : RepurposeSession} (h : KeylessInvariant s)
    (action : RepurposeAction) : RecordsWhole s action := by
  cases action with
  | deliver d =>
    intro after hrun
    obtain ⟨t, books, hprepared, -, rfl⟩ := prepared_of_runJob h.job hrun
    refine ⟨0, ?_⟩
    rw [show ({ t with books := books } : RepurposeSession).variants = t.variants from rfl,
      (hprepared.keyless h.job h.keys).1]
    norm_num
  | command call => trivial
  | credits call => trivial
  | meter ctx data => trivial

/-- In every run of a created job with other calls on its workspace, the cost of the job is what
was recorded, and its hold is settled once for it and replayed. -/
theorem settles_once {s : RepurposeSession} (h : CreatedJob s) (actions : List RepurposeAction) :
    Along stepJob SettlesOnce s actions := by
  rw [settlesOnce_iff h.toNewJob]
  apply along_of_invariant stepJob (I := KeylessInvariant) (P := fun _ _ => True)
  · exact fun current action hcurrent _ => hcurrent.step action
  · exact fun current action hcurrent _ => hcurrent.recordsWhole action
  · exact keylessInvariant_created h
  · exact along_of_always stepJob (fun _ _ => trivial) s actions

end Steps

section Samples

attribute [local instance] sampleResultHashes

def sampleCancel : CommandCall := { sampleRetry with command := .cancel }

/-- A job that fails, is retried, fails again, is cancelled, and is delivered twice more; the first
of these releases its hold. -/
theorem settles_once_sample : (Along stepJob SettlesOnce sampleRepurposeJob
      [.deliver (sampleJobDelivery 4 [sampleOutput "first" (.finite 1)]), .command sampleRetry,
        .deliver (sampleJobDelivery 5 [sampleOutput "second" (.finite 1)]), .command sampleCancel,
        .deliver (sampleJobDelivery 6 []), .deliver (sampleJobDelivery 7 [])]) ∧
    (run stepJob sampleRepurposeJob
      [.deliver (sampleJobDelivery 4 [sampleOutput "first" (.finite 1)]), .command sampleRetry,
        .deliver (sampleJobDelivery 5 [sampleOutput "second" (.finite 1)]), .command sampleCancel,
        .deliver (sampleJobDelivery 6 [])]).books.books.holds.map (·.releasedAmount) =
          [some 3000000] :=
  ⟨settles_once createdJob_sample _, by decide +kernel⟩

end Samples

end BlogOps.RepurposeJobs
