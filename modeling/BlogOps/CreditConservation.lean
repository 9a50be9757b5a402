import BlogOps.CreditInvariant

/-!
# Conservation of credits

Each credit operation keeps the invariant of the books, whether it returns or
is rolled back, so conservation holds in every reachable state.
-/

namespace BlogOps.Billing

open KeyedTables TransitionRuns List

/-- The hold that a settlement names, and how much of it is to be consumed. -/
def CreditCall.asks : CreditCall → Option (Uuid × Int)
  | .finalizeHold holdId data => some (holdId, data.actualAmount)
  | .releaseHold holdId _ => some (holdId, 0)
  | _ => none

/-- What a call that returns does to the books. -/
inductive CreditEffect (call : CreditCall) (b b' : Books) : Prop where
  | same (hbooks : b' = b)
  | opened (account : CreditAccount) (hcall : call.asks = none) (hnone : b.account = none)
      (hzero : account.availableBalance = 0 ∧ account.heldBalance = 0)
      (hbooks : b' = { b with account := some account })
  | issued (grant : CreditGrant) (entry : CreditLedgerEntry) (hcall : call.asks = none)
      (hissued : Issued grant entry b b') (hshows : Shows b' entry)
  | placed (data : CreditHoldCreate) (hold : CreditHold) (new : List CreditHoldAllocation)
      (entry : CreditLedgerEntry) (b₁ : Books) (hcall : call = .createHold data)
      (hplaced : Placed hold new entry b b₁ b') (hshows : Shows b' entry)
  | closed (hold row : CreditHold) (taken : List CreditHoldAllocation) (consumed released : Int)
      (new : List CreditLedgerEntry) (b₁ : Books) (hcall : call.asks = some (hold.id, consumed))
      (hclosing : Closing hold row taken consumed released new b b₁ b')
      (hparts : new.map (·.heldDelta) = ([consumed, released].filter (0 < ·)).map (-·))
      (hshows : ∀ entry ∈ new, Shows b' entry)

variable {account : CreditAccount} {b b' : Books} {ctx : CallContext} {hold : CreditHold}
variable {entry : CreditLedgerEntry}

theorem insertEntry_fits (h : insertEntry entry b = .ok b') :
    numericFits entry.availableAfter = true ∧ numericFits entry.heldAfter = true := by
  unfold insertEntry at h
  split_ifs at h with _ _ _ _ hfits
  simpa using hfits

theorem insertEntries_fits {new : List CreditLedgerEntry} (h : insertEntries new b = .ok b') :
    ∀ entry ∈ new, numericFits entry.availableAfter = true ∧ numericFits entry.heldAfter = true := by
  induction new generalizing b with
  | nil => simp
  | cons entry new ih =>
    obtain ⟨b₁, hentry, h⟩ := bind_ok h
    intro other hother
    rcases mem_cons.mp hother with rfl | hother
    · exact insertEntry_fits hentry
    · exact ih h other hother

theorem balances_of_accountOf (h : accountOf b = .ok account) :
    availableBalance b = account.availableBalance ∧ heldBalance b = account.heldBalance :=
  ⟨availableBalance_some (accountOf_ok h), heldBalance_some (accountOf_ok h)⟩

theorem effect_createCreditAccount (h : createCreditAccount ctx b = .ok (account, b')) :
    CreditEffect .createCreditAccount b b' := by
  unfold createCreditAccount at h
  split at h
  · cases h
    exact .same rfl
  · cases h
    exact .opened _ rfl ‹_› ⟨rfl, rfl⟩ rfl

theorem effect_grantCredits {data : CreditGrantCreate} {grant : CreditGrant}
    (h : grantCredits ctx data b = .ok (grant, b')) : CreditEffect (.grantCredits data) b b' := by
  obtain ⟨account, haccount, h⟩ := bind_ok h
  obtain ⟨havailable, hheld⟩ := balances_of_accountOf haccount
  split at h
  · split_ifs at h
    cases h
    exact .same rfl
  · split_ifs at h
    obtain ⟨b₁, hgrant, h⟩ := bind_ok h
    obtain ⟨b₂, hentry, h⟩ := bind_ok h
    have hfits := insertEntry_fits hentry
    obtain ⟨rfl, hfresh⟩ := insertGrant_ok hgrant
    cases insertEntry_ok hentry
    cases h
    refine .issued _ _ rfl ⟨rfl, rfl, rfl, rfl, ?_, ?_, hfresh, data.amount_pos, rfl, rfl, rfl, rfl, rfl⟩
      ⟨rfl, rfl, hfits⟩
    · rw [havailable]
      rfl
    · rw [hheld]
      rfl

theorem effect_reverseCreditDebit {data : CreditReversal} (hb : BooksInvariant b)
    (h : reverseCreditDebit ctx data b = .ok (entry, b')) :
    CreditEffect (.reverseCreditDebit data) b b' := by
  obtain ⟨original, horiginal, h⟩ := bind_ok h
  have hpos := hb.entry_positive original (entryOf_ok horiginal)
  split at h
  · split_ifs at h
    cases h
    exact .same rfl
  · split at h
    · cases h
    obtain ⟨account, haccount, h⟩ := bind_ok h
    obtain ⟨havailable, hheld⟩ := balances_of_accountOf haccount
    split at h
    · cases h
    obtain ⟨b₁, hgrant, h⟩ := bind_ok h
    obtain ⟨b₂, hentry, h⟩ := bind_ok h
    have hfits := insertEntry_fits hentry
    obtain ⟨rfl, hfresh⟩ := insertGrant_ok hgrant
    cases insertEntry_ok hentry
    cases h
    refine .issued _ _ rfl ⟨rfl, rfl, rfl, rfl, ?_, ?_, hfresh, hpos, rfl, rfl, rfl, rfl, rfl⟩
      ⟨rfl, rfl, hfits⟩
    · rw [havailable]
      rfl
    · rw [hheld]
      rfl

theorem spendableGrants_perm (accountId : Uuid) (now : Int) (b : Books) :
    (spendableGrants accountId now b).Perm (b.grants.filter fun grant =>
      grant.accountId = accountId && 0 < grant.availableAmount &&
        grant.expiresAt.all (now < ·)) :=
  mergeSort_perm _ _

theorem effect_placeHold {data : CreditHoldCreate} {requestHash : String}
    {price : BillingPriceVersion} (hb : BooksInvariant b) (haccount : accountOf b = .ok account)
    (henough : data.maximumAmount ≤ total (·.availableAmount) (spendableGrants account.id ctx.now b))
    (h : placeHold ctx data requestHash price account (spendableGrants account.id ctx.now b) b =
      .ok (hold, b')) : CreditEffect (.createHold data) b b' := by
  obtain ⟨havailable, hheld⟩ := balances_of_accountOf haccount
  obtain ⟨b₁, hhold, h⟩ := bind_ok h
  obtain ⟨rfl, hfresh⟩ := insertHold_ok hhold
  obtain ⟨_, _, h⟩ := bind_ok h
  have hperm := spendableGrants_perm account.id ctx.now b
  have hsub : ∀ grant ∈ spendableGrants account.id ctx.now b, grant ∈ b.grants :=
    fun grant hgrant => (mem_filter.mp (hperm.mem_iff.mp hgrant)).1
  have hrows : Keyed (·.id) (spendableGrants account.id ctx.now b) :=
    (hb.grants_keyed.sublist filter_sublist).perm hperm
  have hpos := data.maximumAmount_pos
  obtain ⟨halloc, htotal⟩ := @allocateHold_allocated ctx
    (newHold ctx data requestHash price account).id
    (spendableGrants account.id ctx.now b) data.maximumAmount 0
    { b with holds := b.holds ++ [newHold ctx data requestHash price account] }
    hb.grants_keyed hrows hsub hb.grant_available (by omega) henough
  generalize allocateHold ctx _ _ _ _ _ = allocated at h halloc htotal
  obtain ⟨b₂, new⟩ := allocated
  simp only at h halloc htotal
  obtain ⟨b₃, hinsert, h⟩ := bind_ok h
  obtain ⟨b₄, hentry, h⟩ := bind_ok h
  have hfits := insertEntry_fits hentry
  obtain ⟨rfl, hkeyed⟩ := insertAllocations_ok hinsert (by
    simp only [halloc.allocations]
    exact hb.allocations_keyed)
  cases insertEntry_ok hentry
  cases h
  simp only [halloc.allocations] at hkeyed
  refine .placed data _ _ _ _ rfl
    ⟨halloc, rfl, rfl, rfl, rfl, ?_, ?_, hfresh, rfl, hpos, rfl, htotal, hkeyed, rfl, rfl⟩
    ⟨rfl, rfl, hfits⟩
  · rw [havailable]
    rfl
  · rw [hheld]
    rfl

theorem effect_createHold {data : CreditHoldCreate} (hb : BooksInvariant b)
    (h : createHold ctx data b = .ok (hold, b')) : CreditEffect (.createHold data) b b' := by
  unfold createHold at h
  split_ifs at h
  simp only at h
  split at h
  · split_ifs at h
    cases h
    exact .same rfl
  · obtain ⟨price, _, h⟩ := bind_ok h
    obtain ⟨account, haccount, h⟩ := bind_ok h
    split_ifs at h with hbalance hbuckets
    exact effect_placeHold hb haccount (not_lt.mp hbuckets) h

theorem allocationsOf_nonneg (hb : BooksInvariant b) (holdId : Uuid) :
    ∀ a ∈ allocationsOf holdId b, 0 ≤ a.heldAmount :=
  fun a ha => hb.allocation_nonneg a (mem_filter.mp ha).1

theorem total_finalizeEntries (ctx : CallContext) (data : CreditHoldFinalize)
    (hold : CreditHold) (account : CreditAccount) {result : HoldFinalization}
    (hconsumed : 0 ≤ result.consumed) (hreleased : 0 ≤ result.released) :
    total (·.availableDelta) (finalizeEntries ctx data hold account result) = result.released ∧
      total (·.heldDelta) (finalizeEntries ctx data hold account result) =
        -(result.consumed + result.released) ∧
      ∀ entry ∈ finalizeEntries ctx data hold account result, 0 < entry.amount := by
  unfold finalizeEntries
  by_cases hc : 0 < result.consumed <;> by_cases hr : 0 < result.released <;>
    simp [hc, hr] <;> omega

/-- One entry for each part of the hold that is not zero, with the balances of the account. -/
theorem finalizeEntries_parts (ctx : CallContext) (data : CreditHoldFinalize) (hold : CreditHold)
    (account : CreditAccount) (result : HoldFinalization) :
    (finalizeEntries ctx data hold account result).map (·.heldDelta) =
        ([result.consumed, result.released].filter (0 < ·)).map (-·) ∧
      ∀ entry ∈ finalizeEntries ctx data hold account result,
        entry.availableAfter = account.availableBalance ∧ entry.heldAfter = account.heldBalance := by
  unfold finalizeEntries
  by_cases hc : 0 < result.consumed <;> by_cases hr : 0 < result.released <;> simp [hc, hr]

theorem effect_finalizeHold {holdId : Uuid} {data : CreditHoldFinalize} (hb : BooksInvariant b)
    (h : finalizeHold ctx holdId data b = .ok (hold, b')) :
    CreditEffect (.finalizeHold holdId data) b b' := by
  obtain ⟨found, hfound, h⟩ := bind_ok h
  obtain ⟨hmem, hid⟩ := holdOf_ok hfound
  obtain ⟨result, hresult, h⟩ := bind_ok h
  split_ifs at h with hreplay
  · cases h
    exact .same rfl
  obtain ⟨hheld, hsum, hactual, hconsumed, hreleased⟩ :=
    finalizeHoldAmounts_ok hresult (Bool.not_eq_true _ ▸ hreplay)
  obtain ⟨account, haccount, h⟩ := bind_ok h
  obtain ⟨havailable, hheldBalance⟩ := balances_of_accountOf haccount
  obtain ⟨⟨left, b₁⟩, hloop, h⟩ := bind_ok h
  simp only at h
  split_ifs at h with hleft
  obtain ⟨_, _, h⟩ := bind_ok h
  obtain ⟨b₂, hupdate, h⟩ := bind_ok h
  obtain ⟨b₃, hentries, h⟩ := bind_ok h
  have hfits := insertEntries_fits hentries
  have hzero : left = 0 := by simpa using hleft
  have hperm : ((allocationsOf found.id b).mergeSort
      fun a c => a.allocationOrder ≤ c.allocationOrder).Perm (allocationsOf found.id b) :=
    mergeSort_perm _ _
  have hsettled := consumeAllocations_settled hb.grants_keyed
    (fun a ha => allocationsOf_nonneg hb found.id a (hperm.mem_iff.mp ha)) hconsumed hloop
  rw [hzero, sub_zero] at hsettled
  cases updateHold_ok hupdate
  cases insertEntries_ok hentries
  cases h
  set after : CreditAccount := { account with
    heldBalance := account.heldBalance - found.maximumAmount
    availableBalance := account.availableBalance + result.released }
  obtain ⟨hdelta, hheldDelta, hpos⟩ := total_finalizeEntries ctx data found after hconsumed hreleased
  obtain ⟨hparts, hafter⟩ := finalizeEntries_parts ctx data found after result
  refine .closed found _ _ _ _ _ b₁ (by rw [hid, hactual]; rfl)
    ⟨hsettled, rfl, rfl, rfl, rfl, ?_, ?_, hmem, hheld, ⟨.finalized, _, _, _, nofun, rfl⟩, hperm, hsum,
      ⟨hconsumed, hreleased⟩, hdelta, by rw [hheldDelta, hsum], hpos⟩ hparts
    fun entry hentry => ⟨(hafter entry hentry).1, (hafter entry hentry).2, hfits entry hentry⟩
  · rw [havailable]
    rfl
  · rw [hheldBalance]
    rfl

theorem effect_releaseHold {holdId : Uuid} {data : CreditHoldRelease} (hb : BooksInvariant b)
    (h : releaseHold ctx holdId data b = .ok (hold, b')) :
    CreditEffect (.releaseHold holdId data) b b' := by
  obtain ⟨found, hfound, h⟩ := bind_ok h
  obtain ⟨hmem, hid⟩ := holdOf_ok hfound
  cases hstate : found.state with
  | released =>
    simp only [hstate] at h
    split_ifs at h
    cases h
    exact .same rfl
  | finalized =>
    simp only [hstate] at h
    cases h
  | held =>
    simp only [hstate] at h
    obtain ⟨account, haccount, h⟩ := bind_ok h
    obtain ⟨havailable, hheldBalance⟩ := balances_of_accountOf haccount
    obtain ⟨b₁, hloop, h⟩ := bind_ok h
    obtain ⟨_, _, h⟩ := bind_ok h
    obtain ⟨b₂, hupdate, h⟩ := bind_ok h
    obtain ⟨b₃, hentry, h⟩ := bind_ok h
    have hfits := insertEntry_fits hentry
    have hsettled := releaseAllocations_settled hb.grants_keyed
      (allocationsOf_nonneg hb found.id) hloop
    have hpos := hb.hold_positive found hmem
    cases updateHold_ok hupdate
    cases insertEntry_ok hentry
    cases h
    refine .closed found _ _ 0 found.maximumAmount _ b₁ (by rw [hid]; rfl)
      ⟨hsettled, rfl, rfl, rfl, rfl, ?_, ?_, hmem, hstate, ⟨.released, _, _, _, nofun, rfl⟩, .refl _,
        zero_add _, ⟨le_rfl, hpos.le⟩, by simp, by simp, ?_⟩ (by simp [hpos]) ?_
    · rw [havailable]
      rfl
    · rw [hheldBalance]
      rfl
    · intro entry hentry
      rw [mem_singleton.mp hentry]
      exact hpos
    · intro entry hentry
      rw [mem_singleton.mp hentry]
      exact ⟨rfl, rfl, hfits⟩

theorem perform_effect {call : CreditCall} (hb : BooksInvariant b)
    (hperform : perform ctx b call = .ok b') :
    CreditEffect call b b' := by
  cases call with
  | createCreditAccount =>
    obtain ⟨⟨_, _⟩, h, rfl⟩ := map_ok hperform
    exact effect_createCreditAccount h
  | grantCredits data =>
    obtain ⟨⟨_, _⟩, h, rfl⟩ := map_ok hperform
    exact effect_grantCredits h
  | createHold data =>
    obtain ⟨⟨_, _⟩, h, rfl⟩ := map_ok hperform
    exact effect_createHold hb h
  | finalizeHold holdId data =>
    obtain ⟨⟨_, _⟩, h, rfl⟩ := map_ok hperform
    exact effect_finalizeHold hb h
  | releaseHold holdId data =>
    obtain ⟨⟨_, _⟩, h, rfl⟩ := map_ok hperform
    exact effect_releaseHold hb h
  | reverseCreditDebit data =>
    obtain ⟨⟨_, _⟩, h, rfl⟩ := map_ok hperform
    exact effect_reverseCreditDebit hb h

/-- A transaction that is rolled back leaves the books as they were. -/
theorem transact_effect (hb : BooksInvariant b) (ctx : CallContext) (call : CreditCall) :
    CreditEffect call b (transact b (ctx, call)) := by
  unfold transact
  cases hperform : perform ctx b call with
  | error failure => exact .same rfl
  | ok after => exact perform_effect hb hperform

theorem CreditEffect.books {call : CreditCall} (hb : BooksInvariant b) (h : CreditEffect call b b') :
    BooksInvariant b' := by
  cases h with
  | same hbooks => exact hbooks ▸ hb
  | opened account _ hnone hzero hbooks =>
    have havailable : availableBalance b' = availableBalance b := by
      simp [hbooks, availableBalance, hnone, hzero.1]
    have hheld : heldBalance b' = heldBalance b := by
      simp [hbooks, heldBalance, hnone, hzero.2]
    subst hbooks
    exact { hb with
      available_total := havailable.trans hb.available_total
      held_total := hheld.trans hb.held_total
      ledger_available := hb.ledger_available.trans havailable.symm
      ledger_held := hb.ledger_held.trans hheld.symm }
  | issued grant entry _ hissued _ => exact hb.issue hissued
  | placed data hold new entry b₁ _ hplaced _ => exact hb.place hplaced
  | closed hold row taken consumed released new b₁ _ hclosing _ _ => exact hb.settle hclosing

theorem booksInvariant_transact (b : Books) (call : CallContext × CreditCall)
    (hb : BooksInvariant b) : BooksInvariant (transact b call) :=
  (transact_effect hb call.1 call.2).books hb

/-- Credits are conserved in every state that the credit operations reach. -/
theorem conserved_reachable {b : Books} (h : Reachable transact emptyBooks b) : Conserved b :=
  (invariant_reachable transact (fun _ => BooksInvariant.initial) booksInvariant_transact
    h).conserved

def contextAt (now : Nat) : CallContext where
  workspaceId := 1
  actorId := 2
  now := now
  newId index := 100 * now + index
  canonicalHash data := data.idempotencyKey
  prices := [{
    id := 7, workspaceId := none, metricKey := "tokens", vendor := "vendor", vendorSku := "sku"
    version := 1, state := .active, unitName := "token", unitSize := 1000000
    creditUnitPrice := 1000000, internalUnitCost := 0, costCurrency := "KRW"
    rounding := some "PROPORTIONAL", pricingHash := "hash", effectiveAt := 0, retiredAt := none }]

theorem five_million_pos : (0 : Int) < 5000000 := by decide

theorem seven_million_pos : (0 : Int) < 7000000 := by decide

theorem hundred_million_pos : (0 : Int) < 100000000 := by decide

theorem unreasoned : (none : Option String).isNone = (none : Option String).isNone := rfl

/-- Two grants, a hold across both, its settlement for less, and the refund. -/
def refundedHold : List (CallContext × CreditCall) := [ (contextAt 1, .createCreditAccount),
  (contextAt 2, .grantCredits {
    bucketKind := .monthly, amount := 5000000, amount_pos := five_million_pos, sourceType := "plan"
    sourceId := "1", expiresAt := none, reasonCode := "MONTHLY" }),
  (contextAt 3, .grantCredits {
    bucketKind := .purchased, amount := 7000000, amount_pos := seven_million_pos, sourceType := "order"
    sourceId := "2", expiresAt := some 90, reasonCode := "PURCHASE" }),
  (contextAt 4, .createHold {
    subjectType := "job", subjectId := "9", operation := "generate", priceVersionId := 7
    maximumAmount := 10000000, maximumAmount_pos := by decide, idempotencyKey := "generate-9"
    expiresAt := 60 }),
  (contextAt 5, .finalizeHold 400 {
    finalizationEventId := "generate-9-done", actualAmount := 6500000
    actualAmount_nonneg := by decide, failureClass := none, reasonCode := none
    reason_pair := unreasoned }),
  (contextAt 6, .reverseCreditDebit {
    entryId := 501, idempotencyKey := "refund-9", reasonCode := "SUPPORT"
    bucketKind := .adminAdjustment, expiresAt := none })]

theorem conserved_refundedHold : Conserved (run transact {} refundedHold) :=
  conserved_reachable ⟨{}, refundedHold, by simp [emptyBooks], rfl⟩

end BlogOps.Billing
