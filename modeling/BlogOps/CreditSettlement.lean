import BlogOps.CreditConservation

/-!
# Settlement of a credit hold

A hold leaves `HELD` once, by `finalize_hold` or by `release_hold`; its row is
then closed, and every later call on it either repeats the settlement that the
row records or raises.
-/

namespace BlogOps.Billing

open KeyedTables TransitionRuns List

/-- A settlement that a caller asks of a hold. -/
inductive Settlement where
  | finalize (data : CreditHoldFinalize)
  | release (data : CreditHoldRelease)

namespace Settlement

def call (holdId : Uuid) : Settlement → CreditCall
  | finalize data => .finalizeHold holdId data
  | release data => .releaseHold holdId data

def perform (ctx : CallContext) (holdId : Uuid) (b : Books) :
    Settlement → Except Failure (CreditHold × Books)
  | finalize data => finalizeHold ctx holdId data b
  | release data => releaseHold ctx holdId data b

def amount : Settlement → Int
  | finalize data => data.actualAmount
  | release _ => 0

/-- The row is the one that this settlement leaves. -/
def Records : Settlement → CreditHold → Prop
  | finalize data, hold => hold.state = .finalized ∧ hold.actualAmount = some data.actualAmount ∧
      hold.finalizationEventId = some data.finalizationEventId ∧
      hold.failureClass = data.failureClass
  | release data, hold => hold.state = .released ∧ hold.finalizationEventId = some data.releaseEventId ∧
      hold.failureClass = some data.failureClass

end Settlement

/-- A settled hold accounts for its whole maximum. -/
def Closed (hold : CreditHold) : Prop :=
  hold.state ≠ .held ∧ ∃ actual released, hold.actualAmount = some actual ∧
    hold.releasedAmount = some released ∧ 0 ≤ actual ∧ 0 ≤ released ∧
    actual + released = hold.maximumAmount

def settledRow (ctx : CallContext) (data : CreditHoldFinalize) (hold : CreditHold)
    (result : HoldFinalization) : CreditHold :=
  { hold with
    actualAmount := some result.consumed
    releasedAmount := some result.released
    finalizationEventId := some data.finalizationEventId
    failureClass := data.failureClass
    state := .finalized
    finalizedAt := some ctx.now }

def freedRow (ctx : CallContext) (data : CreditHoldRelease) (hold : CreditHold) : CreditHold :=
  { hold with
    actualAmount := some 0
    releasedAmount := some hold.maximumAmount
    finalizationEventId := some data.releaseEventId
    failureClass := some data.failureClass
    state := .released
    finalizedAt := some ctx.now }

def freedEntry (ctx : CallContext) (data : CreditHoldRelease) (hold : CreditHold)
    (account : CreditAccount) : CreditLedgerEntry where
  id := ctx.newId 1
  accountId := account.id
  holdId := some hold.id
  kind := .release
  direction := .credit
  amount := hold.maximumAmount
  availableDelta := hold.maximumAmount
  heldDelta := -hold.maximumAmount
  availableAfter := account.availableBalance
  heldAfter := account.heldBalance
  transactionGroupId := ctx.newId 0
  idempotencyKey := "release:" ++ data.releaseEventId
  sourceType := hold.subjectType
  sourceId := hold.subjectId
  reasonCode := data.reasonCode
  pricingSnapshot := some hold.pricingSnapshot
  actorId := ctx.actorId

theorem closed_settledRow (ctx : CallContext) (data : CreditHoldFinalize) (hold : CreditHold)
    {result : HoldFinalization} (hsum : result.consumed + result.released = hold.maximumAmount)
    (hconsumed : 0 ≤ result.consumed) (hreleased : 0 ≤ result.released) :
    Closed (settledRow ctx data hold result) :=
  ⟨by simp [settledRow], _, _, rfl, rfl, hconsumed, hreleased, hsum⟩

variable {hold : CreditHold} {b b' : Books} {failure : Failure} {ctx : CallContext}

theorem closed_freedRow (ctx : CallContext) (data : CreditHoldRelease)
    (hpos : 0 < hold.maximumAmount) : Closed (freedRow ctx data hold) :=
  ⟨by simp [freedRow], _, _, rfl, rfl, le_rfl, hpos.le, zero_add _⟩

theorem holdOf_eq (hb : BooksInvariant b) (hhold : hold ∈ b.holds) : holdOf hold.id b = .ok hold := by
  unfold holdOf
  rw [hb.holds_keyed.find?_eq hhold]

theorem maximumAmount_le_heldBalance (hb : BooksInvariant b) (hhold : hold ∈ b.holds)
    (hheld : hold.state = .held) : hold.maximumAmount ≤ heldBalance b := by
  rw [hb.held_total, ← totalWhere_filter]
  refine le_total_of_mem (f := fun row : CreditHold => row.maximumAmount) ?_ ?_
  · exact fun row hrow => (hb.hold_positive row (mem_filter.mp hrow).1).le
  · exact mem_filter.mpr ⟨hhold, by simpa [isHeld] using hheld⟩

theorem availableBalance_nonneg (hb : BooksInvariant b) : 0 ≤ availableBalance b := by
  rw [hb.available_total]
  exact total_nonneg hb.grant_available

theorem account_of_held (hb : BooksInvariant b) (hhold : hold ∈ b.holds)
    (hheld : hold.state = .held) : ∃ account, b.account = some account := by
  have hle := maximumAmount_le_heldBalance hb hhold hheld
  have hpos := hb.hold_positive hold hhold
  cases haccount : b.account with
  | none =>
    simp only [heldBalance, haccount, Option.elim_none] at hle
    omega
  | some account => exact ⟨account, rfl⟩

theorem accountOf_eq {account : CreditAccount} (h : b.account = some account) :
    accountOf b = .ok account := by
  unfold accountOf
  rw [h]

theorem grantOf_total {grantId : Uuid} (h : ∃ grant ∈ b.grants, grant.id = grantId) :
    ∃ grant, grantOf grantId b = .ok grant := by
  obtain ⟨grant, hgrant, hid⟩ := h
  unfold grantOf
  cases hfind : b.grants.find? (·.id = grantId) with
  | none =>
    rw [find?_eq_none] at hfind
    exact absurd hid (by simpa using hfind grant hgrant)
  | some found => exact ⟨found, rfl⟩

theorem updateGrant_has {grantId k : Uuid} {f : CreditGrant → CreditGrant}
    (hf : ∀ row, (f row).id = row.id) (h : ∃ grant ∈ b.grants, grant.id = grantId) :
    ∃ grant ∈ (updateGrant k f b).grants, grant.id = grantId := by
  rw [← mem_map] at h ⊢
  unfold updateGrant
  rwa [map_updateRow fun row _ => hf row]

theorem ensureBalanceTransition_eq {a h a' h' : Int} (ha : 0 ≤ a) (hh : 0 ≤ h) (ha' : 0 ≤ a')
    (hh' : 0 ≤ h') : ensureBalanceTransition a h a' h' = .ok () := by
  simp [ensureBalanceTransition, requireNonnegativeAmount, not_lt.mpr ha, not_lt.mpr hh,
    not_lt.mpr ha', not_lt.mpr hh', bind, Except.bind]

/-- The loop of `finalize_hold` ends, with nothing left once the allocations cover the
consumed amount. -/
theorem consumeAllocations_total {allocations : List CreditHoldAllocation} {remaining : Int}
    (hgrants : ∀ a ∈ allocations, ∃ grant ∈ b.grants, grant.id = a.grantId)
    (hnonneg : ∀ a ∈ allocations, 0 ≤ a.heldAmount) (hremaining : 0 ≤ remaining)
    (henough : remaining ≤ total (·.heldAmount) allocations) :
    ∃ after, consumeAllocations allocations remaining b = .ok (0, after) := by
  induction allocations generalizing remaining b with
  | nil =>
    have hzero : remaining = 0 := by
      simp only [total_nil] at henough
      omega
    rw [hzero]
    exact ⟨b, rfl⟩
  | cons a allocations ih =>
    obtain ⟨grant, hgrant⟩ := grantOf_total
      (b := updateAllocation a.id (fun row => { row with
        consumedAmount := min a.heldAmount remaining
        releasedAmount := a.heldAmount - min a.heldAmount remaining }) b)
      (hgrants a mem_cons_self)
    rw [total_cons] at henough
    unfold consumeAllocations
    simp only [hgrant, bind, Except.bind]
    refine ih (fun c hc => updateGrant_has (fun row => rfl) ?_)
      (fun c hc => hnonneg c (mem_cons_of_mem _ hc)) (by omega) ?_
    · exact hgrants c (mem_cons_of_mem _ hc)
    · have htail : 0 ≤ total (·.heldAmount) allocations :=
        total_nonneg fun c hc => hnonneg c (mem_cons_of_mem _ hc)
      omega

theorem releaseAllocations_total {allocations : List CreditHoldAllocation}
    (hgrants : ∀ a ∈ allocations, ∃ grant ∈ b.grants, grant.id = a.grantId) :
    ∃ after, releaseAllocations allocations b = .ok after := by
  induction allocations generalizing b with
  | nil => exact ⟨b, rfl⟩
  | cons a allocations ih =>
    obtain ⟨grant, hgrant⟩ := grantOf_total
      (b := updateAllocation a.id (fun row => { row with
        releasedAmount := a.heldAmount }) b) (hgrants a mem_cons_self)
    unfold releaseAllocations
    simp only [hgrant, bind, Except.bind]
    refine ih fun c hc => updateGrant_has (fun row => rfl) ?_
    exact hgrants c (mem_cons_of_mem _ hc)

theorem orderedAllocations_perm (holdId : Uuid) (b : Books) :
    ((allocationsOf holdId b).mergeSort fun a c => a.allocationOrder ≤ c.allocationOrder).Perm
      (allocationsOf holdId b) :=
  mergeSort_perm _ _

theorem total_allocationsOf (hb : BooksInvariant b) (hhold : hold ∈ b.holds)
    (hheld : hold.state = .held) :
    total (·.heldAmount) (allocationsOf hold.id b) = hold.maximumAmount := by
  rw [← hb.hold_allocated hold hhold hheld]
  exact totalWhere_filter _ _ _

theorem allocationsOf_grant (hb : BooksInvariant b) (holdId : Uuid) :
    ∀ a ∈ allocationsOf holdId b, ∃ grant ∈ b.grants, grant.id = a.grantId :=
  fun a ha => hb.allocation_grant a (mem_filter.mp ha).1

/-- `b₁` is `b` with the allocations of `hold` taken off their grants and its maximum off the
held balance, `released` of it available again; the row of the hold and the ledger are still
to be written. -/
structure Drawn (hold : CreditHold) (released : Int) (b b₁ : Books) (account : CreditAccount) :
    Prop where
  drawn : b₁.account = some account
  holds : b₁.holds = b.holds
  entries : b₁.entries = b.entries
  available : account.availableBalance = availableBalance b + released
  held : account.heldBalance = heldBalance b - hold.maximumAmount

/-- Settling a live hold comes down to the writes of its row and of the ledger. -/
theorem settleHold_eq (ctx : CallContext) (data : CreditHoldFinalize) {result : HoldFinalization}
    (hb : BooksInvariant b) (hhold : hold ∈ b.holds) (hheld : hold.state = .held)
    (hsum : result.consumed + result.released = hold.maximumAmount) (hconsumed : 0 ≤ result.consumed)
    (hreleased : 0 ≤ result.released) : ∃ account b₁, Drawn hold result.released b b₁ account ∧
      settleHold ctx data hold result b = (do
        let b ← updateHold (settledRow ctx data hold result) b₁
        let b ← insertEntries (finalizeEntries ctx data hold account result) b
        .ok (settledRow ctx data hold result, b)) := by
  obtain ⟨account, haccount⟩ := account_of_held hb hhold hheld
  have hperm := orderedAllocations_perm hold.id b
  have hnonneg := fun a ha => allocationsOf_nonneg hb hold.id a (hperm.mem_iff.mp ha)
  obtain ⟨b₁, hloop⟩ := consumeAllocations_total
    (fun a ha => allocationsOf_grant hb hold.id a (hperm.mem_iff.mp ha)) hnonneg hconsumed
    (by rw [total_perm _ hperm, total_allocationsOf hb hhold hheld]; omega)
  have hsettled := consumeAllocations_settled hb.grants_keyed hnonneg hconsumed hloop
  have havailable := availableBalance_nonneg hb
  have hmaximum := maximumAmount_le_heldBalance hb hhold hheld
  have hpos := hb.hold_positive hold hhold
  rw [availableBalance_some haccount] at havailable
  rw [heldBalance_some haccount] at hmaximum
  have hensure : ensureBalanceTransition account.availableBalance account.heldBalance
      (account.availableBalance + result.released)
      (account.heldBalance - hold.maximumAmount) = .ok () :=
    ensureBalanceTransition_eq havailable (by omega) (by omega) (by omega)
  refine ⟨{ account with
    heldBalance := account.heldBalance - hold.maximumAmount
    availableBalance := account.availableBalance + result.released },
    { b₁ with account := some { account with
      heldBalance := account.heldBalance - hold.maximumAmount
      availableBalance := account.availableBalance + result.released } }, ?_, ?_⟩
  · exact ⟨rfl, hsettled.holds, hsettled.entries, by rw [availableBalance_some haccount],
      by rw [heldBalance_some haccount]⟩
  · unfold settleHold
    simp only [accountOf_eq haccount, hloop, hensure, bind, Except.bind, ne_eq, not_true_eq_false,
      ↓reduceIte]
    rfl

theorem freeHold_eq (ctx : CallContext) (data : CreditHoldRelease) (hb : BooksInvariant b)
    (hhold : hold ∈ b.holds) (hheld : hold.state = .held) :
    ∃ account b₁, Drawn hold hold.maximumAmount b b₁ account ∧
      freeHold ctx data hold b = (do
        let b ← updateHold (freedRow ctx data hold) b₁
        let b ← insertEntry (freedEntry ctx data hold account) b
        .ok (freedRow ctx data hold, b)) := by
  obtain ⟨account, haccount⟩ := account_of_held hb hhold hheld
  obtain ⟨b₁, hloop⟩ := releaseAllocations_total (allocationsOf_grant hb hold.id)
  have hsettled := releaseAllocations_settled hb.grants_keyed (allocationsOf_nonneg hb hold.id)
    hloop
  have havailable := availableBalance_nonneg hb
  have hmaximum := maximumAmount_le_heldBalance hb hhold hheld
  have hpos := hb.hold_positive hold hhold
  rw [availableBalance_some haccount] at havailable
  rw [heldBalance_some haccount] at hmaximum
  have hensure : ensureBalanceTransition
      (account.availableBalance + hold.maximumAmount - hold.maximumAmount)
      (account.heldBalance - hold.maximumAmount + hold.maximumAmount)
      (account.availableBalance + hold.maximumAmount)
      (account.heldBalance - hold.maximumAmount) = .ok () :=
    ensureBalanceTransition_eq (by omega) (by omega) (by omega) (by omega)
  refine ⟨{ account with
    heldBalance := account.heldBalance - hold.maximumAmount
    availableBalance := account.availableBalance + hold.maximumAmount },
    { b₁ with account := some { account with
      heldBalance := account.heldBalance - hold.maximumAmount
      availableBalance := account.availableBalance + hold.maximumAmount } }, ?_, ?_⟩
  · exact ⟨rfl, hsettled.holds, hsettled.entries, by rw [availableBalance_some haccount],
      by rw [heldBalance_some haccount]⟩
  · unfold freeHold
    simp only [accountOf_eq haccount, hloop, hensure, bind, Except.bind]
    rfl

theorem insertEntry_error {entry : CreditLedgerEntry} (h : insertEntry entry b = .error failure) :
    ∃ constraint, failure = .integrity constraint := by
  unfold insertEntry at h
  split_ifs at h <;> cases h <;> exact ⟨_, rfl⟩

theorem insertEntries_error {new : List CreditLedgerEntry}
    (h : insertEntries new b = .error failure) : ∃ constraint, failure = .integrity constraint := by
  induction new generalizing b with
  | nil => cases h
  | cons entry new ih =>
    unfold insertEntries at h
    cases hentry : insertEntry entry b with
    | error refused =>
      rw [hentry] at h
      cases h
      exact insertEntry_error hentry
    | ok after =>
      rw [hentry] at h
      exact ih h

theorem updateHold_error (h : updateHold hold b = .error failure) :
    ∃ constraint, failure = .integrity constraint := by
  unfold updateHold at h
  split_ifs at h
  cases h
  exact ⟨_, rfl⟩

/-- The last two writes of a settlement: the row of the hold, then the ledger. -/
theorem closingWrites (row : CreditHold) (b : Books) {b₁ : Books} (write : Books → Except Failure Books)
    (hwrite : ∀ b b', write b = .ok b' → b'.holds = b.holds)
    (herror : ∀ b failure, write b = .error failure → ∃ c, failure = .integrity c)
    (hholds : b₁.holds = b.holds) : (∃ after, (do
        let b ← updateHold row b₁
        let b ← write b
        .ok (row, b)) = Except.ok (row, after) ∧
        after.holds = updateRow (·.id) row.id (fun _ => row) b.holds) ∨
      ∃ constraint, (do
        let b ← updateHold row b₁
        let b ← write b
        .ok (row, b)) = Except.error (ε := Failure) (α := CreditHold × Books)
          (.integrity constraint) := by
  cases hupdate : updateHold row b₁ with
  | error failure =>
    obtain ⟨constraint, rfl⟩ := updateHold_error hupdate
    exact .inr ⟨constraint, rfl⟩
  | ok b₂ =>
    cases hlast : write b₂ with
    | error failure =>
      obtain ⟨constraint, rfl⟩ := herror b₂ failure hlast
      exact .inr ⟨constraint, by simp only [bind, Except.bind, hlast]⟩
    | ok after =>
      refine .inl ⟨after, by simp only [bind, Except.bind, hlast], ?_⟩
      rw [hwrite b₂ after hlast, updateHold_ok hupdate, hholds]

/-- What one settlement call on `hold` does to the books `b`. -/
inductive SettlementOutcome (ctx : CallContext) (s : Settlement) (hold : CreditHold)
    (b : Books) : Prop where
  | settled (row : CreditHold) (after : Books) (hheld : hold.state = .held)
      (hperform : s.perform ctx hold.id b = .ok (row, after)) (hid : row.id = hold.id)
      (hmaximum : row.maximumAmount = hold.maximumAmount)
      (hactual : row.actualAmount = some s.amount) (hrecords : s.Records row)
      (hclosed : Closed row)
      (hholds : after.holds = updateRow (·.id) hold.id (fun _ => row) b.holds)
  | repeated (hrecords : s.Records hold) (hperform : s.perform ctx hold.id b = .ok (hold, b))
  | refused (error : AppError) (hrecords : ¬ s.Records hold)
      (hperform : s.perform ctx hold.id b = .error (.app error))
  | rejected (constraint : String) (hheld : hold.state = .held)
      (hamount : s.amount ≤ hold.maximumAmount)
      (hperform : s.perform ctx hold.id b = .error (.integrity constraint))

theorem settlementOutcome_finalize (ctx : CallContext) (data : CreditHoldFinalize)
    (hb : BooksInvariant b) (hhold : hold ∈ b.holds) :
    SettlementOutcome ctx (.finalize data) hold b := by
  have hpos := hb.hold_positive hold hhold
  have hnonneg := data.actualAmount_nonneg
  have hperform : Settlement.perform ctx hold.id b (.finalize data) = (do
      let result ← finalizeHoldAmounts hold.state hold.maximumAmount data.actualAmount
        hold.actualAmount
      if result.replay then
        if hold.finalizationEventId ≠ some data.finalizationEventId ∨
            hold.failureClass ≠ data.failureClass then
          .error (.app {
            code := "CREDIT_HOLD_FINALIZATION_CONFLICT"
            message := "이미 다른 완료 이벤트 또는 실패 분류로 확정된 Hold입니다."
            statusCode := 409 })
        else .ok (hold, b)
      else settleHold ctx data hold result b) := by
    unfold Settlement.perform finalizeHold
    simp only [holdOf_eq hb hhold, bind, Except.bind]
  unfold finalizeHoldAmounts at hperform
  rw [requirePositiveAmount, if_neg (by omega), requireNonnegativeAmount, if_neg (by omega)]
    at hperform
  cases hstate : hold.state with
  | finalized =>
    simp only [hstate, bind, Except.bind] at hperform
    by_cases hamount : hold.actualAmount = some data.actualAmount
    · simp only [hamount, ↓reduceIte] at hperform
      split_ifs at hperform with hconflict
      · refine .refused _ (fun hrecords => ?_) hperform
        exact hconflict.elim (absurd hrecords.2.2.1) (absurd hrecords.2.2.2)
      · rw [not_or, not_not, not_not] at hconflict
        exact .repeated ⟨hstate, hamount, hconflict⟩ hperform
    · simp only [hamount, ↓reduceIte] at hperform
      exact .refused _ (fun hrecords => hamount hrecords.2.1) hperform
  | released =>
    simp only [hstate, bind, Except.bind] at hperform
    refine .refused _ (fun hrecords => ?_) hperform
    exact absurd (hstate.symm.trans hrecords.1) (by simp)
  | held =>
    simp only [hstate, bind, Except.bind] at hperform
    by_cases hmaximum : hold.maximumAmount < data.actualAmount
    · simp only [hmaximum, ↓reduceIte] at hperform
      refine .refused _ (fun hrecords => ?_) hperform
      exact absurd (hstate.symm.trans hrecords.1) (by simp)
    simp only [hmaximum, ↓reduceIte, Bool.false_eq_true] at hperform
    set result : HoldFinalization :=
      ⟨data.actualAmount, hold.maximumAmount - data.actualAmount, false⟩ with hresult
    have hsum : result.consumed + result.released = hold.maximumAmount := by
      simp [hresult]
    have hreleased : 0 ≤ result.released := by
      simp only [hresult]
      omega
    obtain ⟨account, b₁, hdrawn, hsettle⟩ :=
      settleHold_eq ctx data hb hhold hstate hsum hnonneg hreleased
    rw [hsettle] at hperform
    rcases closingWrites (settledRow ctx data hold result) b
      (insertEntries (finalizeEntries ctx data hold account result))
      (fun b b' hentries => by rw [insertEntries_ok hentries])
      (fun b failure => insertEntries_error) hdrawn.holds with ⟨after, hwrites, hholds⟩ | ⟨c, hwrites⟩
    · exact .settled _ after hstate (hperform.trans hwrites) rfl rfl rfl ⟨rfl, rfl, rfl, rfl⟩
        (closed_settledRow ctx data hold hsum hnonneg hreleased) hholds
    · exact .rejected c hstate (not_lt.mp hmaximum) (hperform.trans hwrites)

theorem settlementOutcome_release (ctx : CallContext) (data : CreditHoldRelease) (hb : BooksInvariant b)
    (hhold : hold ∈ b.holds) : SettlementOutcome ctx (.release data) hold b := by
  have hpos := hb.hold_positive hold hhold
  cases hstate : hold.state with
  | released =>
    have hperform : Settlement.perform ctx hold.id b (.release data) =
        if hold.finalizationEventId ≠ some data.releaseEventId ∨
            hold.failureClass ≠ some data.failureClass then
          .error (.app {
            code := "CREDIT_HOLD_RELEASE_CONFLICT"
            message := "이미 다른 이벤트로 해제된 Hold입니다."
            statusCode := 409 })
        else .ok (hold, b) := by
      unfold Settlement.perform releaseHold
      simp only [holdOf_eq hb hhold, hstate, bind, Except.bind]
    split_ifs at hperform with hconflict
    · refine .refused _ (fun hrecords => ?_) hperform
      exact hconflict.elim (absurd hrecords.2.1) (absurd hrecords.2.2)
    · rw [not_or, not_not, not_not] at hconflict
      exact .repeated ⟨hstate, hconflict⟩ hperform
  | finalized =>
    refine .refused _ (fun hrecords => ?_) (by
      unfold Settlement.perform releaseHold
      simp only [holdOf_eq hb hhold, hstate, bind, Except.bind]
      rfl)
    exact absurd (hstate.symm.trans hrecords.1) (by simp)
  | held =>
    have hperform : Settlement.perform ctx hold.id b (.release data) =
        freeHold ctx data hold b := by
      unfold Settlement.perform releaseHold
      simp only [holdOf_eq hb hhold, hstate, bind, Except.bind]
    obtain ⟨account, b₁, hdrawn, hfree⟩ := freeHold_eq ctx data hb hhold hstate
    rw [hfree] at hperform
    rcases closingWrites (freedRow ctx data hold) b (insertEntry (freedEntry ctx data hold account))
      (fun b b' hentry => by rw [insertEntry_ok hentry])
      (fun b failure => insertEntry_error) hdrawn.holds with ⟨after, hwrites, hholds⟩ | ⟨c, hwrites⟩
    · exact .settled _ after hstate (hperform.trans hwrites) rfl rfl rfl ⟨rfl, rfl, rfl⟩
        (closed_freedRow ctx data hpos) hholds
    · exact .rejected c hstate hpos.le (hperform.trans hwrites)

theorem settlementOutcome (ctx : CallContext) (s : Settlement) (hb : BooksInvariant b)
    (hhold : hold ∈ b.holds) : SettlementOutcome ctx s hold b := by
  cases s with
  | finalize data => exact settlementOutcome_finalize ctx data hb hhold
  | release data => exact settlementOutcome_release ctx data hb hhold

/-- What one credit call does to the table of holds. -/
inductive HoldsStep (b b' : Books) : Prop where
  | same (hholds : b'.holds = b.holds)
  | placed (hold : CreditHold) (hheld : hold.state = .held) (hholds : b'.holds = b.holds ++ [hold])
  | closed (hold row : CreditHold) (hhold : hold ∈ b.holds) (hheld : hold.state = .held)
      (hid : row.id = hold.id) (hmaximum : row.maximumAmount = hold.maximumAmount)
      (hclosed : Closed row)
      (hholds : b'.holds = updateRow (·.id) hold.id (fun _ => row) b.holds)

theorem transact_ok {after : Books} {call : CreditCall} (h : perform ctx b call = .ok after) :
    transact b (ctx, call) = after := by
  unfold transact
  simp only [h]

theorem transact_error {call : CreditCall} (h : perform ctx b call = .error failure) :
    transact b (ctx, call) = b := by
  unfold transact
  simp only [h]

theorem perform_call (ctx : CallContext) (s : Settlement) (holdId : Uuid) (b : Books) :
    perform ctx b (s.call holdId) = (s.perform ctx holdId b).map Prod.snd := by
  cases s <;> rfl

theorem SettlementOutcome.transact_eq {s : Settlement} (h : SettlementOutcome ctx s hold b) :
    (hold.state = .held ∧ ∃ row, s.perform ctx hold.id b = .ok (row, transact b (ctx, s.call hold.id)) ∧
      row.id = hold.id ∧ row.maximumAmount = hold.maximumAmount ∧
      row.actualAmount = some s.amount ∧ s.Records row ∧ Closed row ∧
      (transact b (ctx, s.call hold.id)).holds = updateRow (·.id) hold.id (fun _ => row) b.holds) ∨
      transact b (ctx, s.call hold.id) = b := by
  have hcall := perform_call ctx s hold.id b
  cases h with
  | settled row after hheld hperform hid hmaximum hactual hrecords hclosed hholds =>
    rw [hperform] at hcall
    rw [transact_ok hcall]
    exact .inl ⟨hheld, row, hperform, hid, hmaximum, hactual, hrecords, hclosed, hholds⟩
  | repeated hrecords hperform =>
    rw [hperform] at hcall
    exact .inr (transact_ok hcall)
  | refused error hrecords hperform =>
    rw [hperform] at hcall
    exact .inr (transact_error hcall)
  | rejected c hheld hamount hperform =>
    rw [hperform] at hcall
    exact .inr (transact_error hcall)

theorem allocateHold_holds (ctx : CallContext) (holdId : Uuid) (grants : List CreditGrant)
    (remaining : Int) (order : Nat) (b : Books) :
    (allocateHold ctx holdId grants remaining order b).1.holds = b.holds := by
  induction grants generalizing remaining order b with
  | nil => rfl
  | cons grant grants ih =>
    unfold allocateHold
    split
    · rfl
    · exact ih _ _ _

theorem insertAllocations_holds {new : List CreditHoldAllocation}
    (h : insertAllocations new b = .ok b') : b'.holds = b.holds := by
  induction new generalizing b with
  | nil =>
    cases h
    rfl
  | cons a new ih =>
    unfold insertAllocations at h
    split_ifs at h
    have hholds := ih h
    exact hholds

theorem CreditEffect.holdsStep {call : CreditCall} (h : CreditEffect call b b') : HoldsStep b b' := by
  cases h with
  | same hbooks => exact .same (by rw [hbooks])
  | opened account _ _ _ hbooks => exact .same (by rw [hbooks])
  | issued grant entry _ hissued _ => exact .same hissued.holds
  | placed data hold new entry b₁ _ hplaced _ =>
    exact .placed hold hplaced.state (hplaced.holds.trans hplaced.allocated.holds)
  | closed hold row taken consumed released new b₁ _ hclosing _ _ =>
    obtain ⟨state, event, failure, now, hstate, hrow⟩ := hclosing.closes
    obtain ⟨hconsumed, hreleased⟩ := hclosing.nonneg
    have hholds := hclosing.holds
    rw [hclosing.settled.holds, hrow] at hholds
    refine .closed hold _ hclosing.member hclosing.live ?_ ?_ ?_ hholds
    · rfl
    · rfl
    · exact ⟨hstate, consumed, released, rfl, rfl, hconsumed, hreleased, hclosing.sum⟩

theorem holdsStep_transact (hb : BooksInvariant b) (call : CallContext × CreditCall) :
    HoldsStep b (transact b call) :=
  (transact_effect hb call.1 call.2).holdsStep

/-- Rows of holds keep their maximum, and a row that left `HELD` is final. -/
def Evolves (b b' : Books) : Prop := ∀ hold ∈ b.holds, ∃ row ∈ b'.holds, row.id = hold.id ∧
    row.maximumAmount = hold.maximumAmount ∧ (hold.state ≠ .held → row = hold)

theorem Evolves.refl (b : Books) : Evolves b b :=
  fun hold hhold => ⟨hold, hhold, rfl, rfl, fun _ => rfl⟩

theorem Evolves.trans {b₁ b₂ : Books} (h : Evolves b b₁) (h' : Evolves b₁ b₂) : Evolves b b₂ := by
  intro hold hhold
  obtain ⟨mid, hmid, hid, hmaximum, hsame⟩ := h hold hhold
  obtain ⟨row, hrow, hid', hmaximum', hsame'⟩ := h' mid hmid
  refine ⟨row, hrow, hid'.trans hid, hmaximum'.trans hmaximum, fun hstate => ?_⟩
  have heq := hsame hstate
  exact (hsame' (heq ▸ hstate)).trans heq

theorem HoldsStep.evolves (hb : BooksInvariant b) (h : HoldsStep b b') : Evolves b b' := by
  intro hold hhold
  cases h with
  | same hholds => exact ⟨hold, hholds ▸ hhold, rfl, rfl, fun _ => rfl⟩
  | placed new hheld hholds =>
    exact ⟨hold, hholds ▸ mem_append_left _ hhold, rfl, rfl, fun _ => rfl⟩
  | closed other row hother hheld hid hmaximum hclosed hholds =>
    rw [hholds]
    by_cases hk : hold.id = other.id
    · have heq := hb.holds_keyed.eq_of_key_eq hhold hother hk
      subst heq
      exact ⟨row, mem_updateRow_of_mem hhold rfl, hid, hmaximum, fun hstate => absurd hheld hstate⟩
    · exact ⟨hold, mem_updateRow_of_ne hhold hk, rfl, rfl, fun _ => rfl⟩

/-- Every hold is live or accounts for its whole maximum. -/
structure SettledBooks (b : Books) : Prop where
  books : BooksInvariant b
  closed : ∀ hold ∈ b.holds, hold.state ≠ .held → Closed hold

theorem settledBooks_initial (h : emptyBooks b) : SettledBooks b where
  books := .initial h
  closed hold hhold := by
    rw [h.2.1] at hhold
    cases hhold

theorem settledBooks_transact (b : Books) (call : CallContext × CreditCall)
    (h : SettledBooks b) : SettledBooks (transact b call) := by
  refine ⟨booksInvariant_transact b call h.books, fun hold hhold hstate => ?_⟩
  cases holdsStep_transact h.books call with
  | same hholds => exact h.closed hold (hholds ▸ hhold) hstate
  | placed new hheld hholds =>
    rw [hholds] at hhold
    rcases mem_append.mp hhold with hhold | hhold
    · exact h.closed hold hhold hstate
    · rw [mem_singleton.mp hhold] at hstate
      exact absurd hheld hstate
  | closed other row hother hheld hid hmaximum hclosed hholds =>
    rw [hholds] at hhold
    obtain ⟨old, hold', ⟨-, rfl⟩ | ⟨-, rfl⟩⟩ := mem_updateRow hhold
    · exact hclosed
    · exact h.closed hold hold' hstate

theorem settledBooks_run (h : SettledBooks b) (calls : List (CallContext × CreditCall)) :
    SettledBooks (run transact b calls) :=
  invariant_run transact settledBooks_transact h calls

theorem evolves_run (h : SettledBooks b) (calls : List (CallContext × CreditCall)) :
    Evolves b (run transact b calls) := by
  induction calls generalizing b with
  | nil => exact .refl b
  | cons call calls ih =>
    exact ((holdsStep_transact h.books call).evolves h.books).trans
      (ih (settledBooks_transact b call h))

def settles (holdId : Uuid) : CreditCall → Bool
  | .finalizeHold id _ => id = holdId
  | .releaseHold id _ => id = holdId
  | _ => false

theorem settles_iff {holdId : Uuid} {call : CreditCall} :
    settles holdId call = true ↔ ∃ s : Settlement, call = s.call holdId := by
  constructor
  · intro h
    cases call with
    | finalizeHold id data =>
      obtain rfl : id = holdId := by simpa [settles] using h
      exact ⟨.finalize data, rfl⟩
    | releaseHold id data =>
      obtain rfl : id = holdId := by simpa [settles] using h
      exact ⟨.release data, rfl⟩
    | _ => cases h
  · rintro ⟨s, rfl⟩
    cases s <;> simp [settles, Settlement.call]

/-- How many settlement calls on the hold change the books along a run. -/
def settlementChanges (holdId : Uuid) : Books → List (CallContext × CreditCall) → Nat
  | _, [] => 0
  | b, call :: calls =>
    (if settles holdId call.2 ∧ transact b call ≠ b then 1 else 0) +
      settlementChanges holdId (transact b call) calls

theorem transact_closed (h : SettledBooks b) (hhold : hold ∈ b.holds) (hstate : hold.state ≠ .held)
    {call : CallContext × CreditCall} (hsettles : settles hold.id call.2 = true) :
    transact b call = b := by
  obtain ⟨ctx, call⟩ := call
  obtain ⟨s, rfl⟩ := settles_iff.mp hsettles
  rcases (settlementOutcome ctx s h.books hhold).transact_eq with ⟨hheld, -⟩ | hsame
  · exact absurd hheld hstate
  · exact hsame

theorem settlementChanges_closed (h : SettledBooks b) (hhold : hold ∈ b.holds)
    (hstate : hold.state ≠ .held) (calls : List (CallContext × CreditCall)) :
    settlementChanges hold.id b calls = 0 := by
  induction calls generalizing b with
  | nil => rfl
  | cons call calls ih =>
    obtain ⟨row, hrow, -, -, hsame⟩ := (holdsStep_transact h.books call).evolves h.books hold hhold
    obtain rfl := hsame hstate
    unfold settlementChanges
    rw [ih (settledBooks_transact b call h) hrow, if_neg]
    rintro ⟨hsettles, hne⟩
    exact hne (transact_closed h hhold hstate hsettles)

theorem settlementChanges_le_one (h : SettledBooks b) (hhold : hold ∈ b.holds)
    (calls : List (CallContext × CreditCall)) : settlementChanges hold.id b calls ≤ 1 := by
  induction calls generalizing b hold with
  | nil => exact Nat.zero_le 1
  | cons call calls ih =>
    have hafter := settledBooks_transact b call h
    unfold settlementChanges
    by_cases hchange : settles hold.id call.2 ∧ transact b call ≠ b
    · obtain ⟨ctx, call⟩ := call
      obtain ⟨s, rfl⟩ := settles_iff.mp hchange.1
      rcases (settlementOutcome ctx s h.books hhold).transact_eq with
        ⟨-, row, -, hid, -, -, -, hclosed, hholds⟩ | hsame
      · have hrow : row ∈ (transact b (ctx, s.call hold.id)).holds := by
          rw [hholds]
          exact mem_updateRow_of_mem (f := fun _ => row) hhold rfl
        have hzero := settlementChanges_closed hafter hrow hclosed.1 calls
        rw [hid] at hzero
        rw [hzero]
        split <;> omega
      · exact absurd hsame hchange.2
    · obtain ⟨row, hrow, hid, -, -⟩ := (holdsStep_transact h.books call).evolves h.books hold hhold
      rw [if_neg hchange, zero_add, ← hid]
      exact ih hafter hrow

/-- Two live holds, the first of them finalized under the event `shared-event`. -/
def sharedEventCalls : List (CallContext × CreditCall) := [ (contextAt 1, .createCreditAccount),
  (contextAt 2, .grantCredits {
    bucketKind := .monthly, amount := 5000000, amount_pos := five_million_pos, sourceType := "plan"
    sourceId := "1", expiresAt := none, reasonCode := "MONTHLY" }),
  (contextAt 3, .createHold {
    subjectType := "job", subjectId := "8", operation := "generate", priceVersionId := 7
    maximumAmount := 1000000, maximumAmount_pos := by decide, idempotencyKey := "generate-8"
    expiresAt := 60 }),
  (contextAt 4, .createHold {
    subjectType := "job", subjectId := "9", operation := "generate", priceVersionId := 7
    maximumAmount := 2000000, maximumAmount_pos := by decide, idempotencyKey := "generate-9"
    expiresAt := 60 }),
  (contextAt 5, .finalizeHold 300 {
    finalizationEventId := "shared-event", actualAmount := 1000000
    actualAmount_nonneg := by decide, failureClass := none, reasonCode := none
    reason_pair := unreasoned })]

/-- A hold is settled at most once along any run: each call on it settles a live hold, repeats
the settlement its row records, or raises and changes nothing; a closed row stays as it is. -/
theorem settled_exactly_once {b : Books} (hreach : Reachable transact emptyBooks b)
    {hold : CreditHold} (hhold : hold ∈ b.holds) (calls : List (CallContext × CreditCall)) :
    settlementChanges hold.id b calls ≤ 1 ∧
      (∀ before ctx s after, calls = before ++ (ctx, Settlement.call hold.id s) :: after →
        ∃ row ∈ (run transact b before).holds, row.id = hold.id ∧
          row.maximumAmount = hold.maximumAmount ∧
          SettlementOutcome ctx s row (run transact b before)) ∧
      ∀ before after, calls = before ++ after → ∀ row ∈ (run transact b before).holds,
        row.state ≠ .held → Closed row ∧ row ∈ (run transact b calls).holds := by
  have hb := invariant_reachable transact (fun _ => settledBooks_initial) settledBooks_transact
    hreach
  refine ⟨settlementChanges_le_one hb hhold calls, ?_, ?_⟩
  · intro before ctx s after _
    have hbefore := settledBooks_run hb before
    obtain ⟨row, hrow, hid, hmaximum, -⟩ := evolves_run hb before hold hhold
    exact ⟨row, hrow, hid, hmaximum, settlementOutcome ctx s hbefore.books hrow⟩
  · rintro before after rfl row hrow hstate
    have hbefore := settledBooks_run hb before
    obtain ⟨last, hlast, -, -, hsame⟩ := evolves_run hbefore after row hrow
    rw [run_append]
    exact ⟨hbefore.closed row hrow hstate, hsame hstate ▸ hlast⟩

theorem settled_exactly_once_sharedEvent :
    ∃ hold ∈ (run transact {} (sharedEventCalls.take 4)).holds, hold.id = 300 ∧
      settlementChanges hold.id (run transact {} (sharedEventCalls.take 4))
        (sharedEventCalls.drop 4) ≤ 1 := by
  have hheld : ∃ hold ∈ (run transact {} (sharedEventCalls.take 4)).holds, hold.id = 300 := by
    decide +kernel
  obtain ⟨hold, hhold, hid⟩ := hheld
  have hreach : Reachable transact emptyBooks (run transact {} (sharedEventCalls.take 4)) :=
    ⟨{}, sharedEventCalls.take 4, by simp [emptyBooks], rfl⟩
  exact ⟨hold, hhold, hid, (settled_exactly_once hreach hhold _).1⟩

/-- The second hold is live and the call within its maximum, and yet the error is the one of
the unique constraint. -/
theorem shared_event_rejected : Reachable transact emptyBooks (run transact {} sharedEventCalls) ∧
      (∃ hold ∈ (run transact {} sharedEventCalls).holds, hold.id = 400 ∧ hold.state = .held) ∧
      Settlement.perform (contextAt 6) 400 (run transact {} sharedEventCalls)
        (.release ⟨"shared-event", "CANCELLED", "USER"⟩) =
        .error (.integrity "billing_credit_finalize_once") := by
  refine ⟨⟨{}, sharedEventCalls, by simp [emptyBooks], rfl⟩, ?_, ?_⟩
  · decide +kernel
  · decide +kernel

end BlogOps.Billing
