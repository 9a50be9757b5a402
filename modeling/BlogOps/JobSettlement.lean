import BlogOps.BalanceBounds
import BlogOps.BudgetReservations
import BlogOps.UsageRecords

/-!
# Settlement of a reserved job

`_BillingJobBudgetAdapter._finalize` meters the actual cost of a terminal event
at the price version of the hold and finalizes the hold for the credits that
come out.  The price version is looked up again and must still be effective
when the event occurs, although the hold has pinned its snapshot.
-/

namespace BlogOps.Billing

open KeyedTables TransitionRuns List

/-- The books with the usage records of the workspace. -/
structure MeteredBooks where
  books : Books
  usage : List UsageRecord

/-- The arguments of `_finalize`. -/
structure TerminalEvent where
  completionEventId : String
  subjectType : String
  actualCost : Int
  currency : String
  failureClass : Option String
  reasonCode : Option String

def usageRequest (hold : CreditHold) (occurredAt : Int) (event : TerminalEvent) : UsageRecordCreate where
  sourceEventId := event.completionEventId
  subjectType := event.subjectType
  subjectId := hold.subjectId
  metricKey := hold.pricingSnapshot.metricKey
  quantity := event.actualCost
  priceVersionId := hold.priceVersionId
  occurredAt := occurredAt

/-- The credits of the event, metered when its cost is positive. -/
def terminalCredits (ctx : CallContext) (hold : CreditHold) (occurredAt : Int) (event : TerminalEvent)
    (usage : List UsageRecord) : Except Failure (Int × List UsageRecord) :=
  if 0 < event.actualCost then do
    require (usageAccepted (usageRequest hold occurredAt event)) .validationError
    let (row, usage) ← recordUsage ctx (usageRequest hold occurredAt event) usage
    .ok (row.creditAmount, usage)
  else .ok (0, usage)

/-- `CreditHoldFinalize(...)` with the bounds of its schema. -/
def finalizeRequest (event : TerminalEvent) (credits : Int) : Except Failure CreditHoldFinalize :=
  if hnonneg : 0 ≤ credits then
    if hpair : event.failureClass.isNone = event.reasonCode.isNone then
      if credits < 10 ^ 19 ∧ textFits 8 500 event.completionEventId ∧
          event.failureClass.all (textFits 2 80) ∧ event.reasonCode.all (textFits 3 120) then
        .ok {
          finalizationEventId := event.completionEventId
          actualAmount := credits
          actualAmount_nonneg := hnonneg
          failureClass := event.failureClass
          reasonCode := event.reasonCode
          reason_pair := hpair }
      else .error .validationError
    else .error .validationError
  else .error .validationError

def finalizeJob (ctx : CallContext) (holdId : Uuid) (occurredAt : Int) (event : TerminalEvent)
    (s : MeteredBooks) : Except Failure (CreditHold × MeteredBooks) := do
  require (0 ≤ event.actualCost) (.app {
    code := "BILLING_ACTUAL_COST_INVALID"
    message := "실제 비용은 음수가 아닌 유한값이어야 합니다."
    statusCode := 422 })
  let hold ← holdOf holdId s.books
  require (hold.pricingSnapshot.costCurrency = event.currency) (.app {
    code := "BILLING_COST_CURRENCY_MISMATCH"
    message := "실제 비용 통화가 Hold 가격표와 다릅니다."
    statusCode := 409 })
  let (credits, usage) ← terminalCredits ctx hold occurredAt event s.usage
  let data ← finalizeRequest event credits
  let (row, books) ← finalizeHold ctx holdId data s.books
  .ok (row, ⟨books, usage⟩)

/-! ## The price of a hold -/

section

variable {ctx : CallContext} {price : BillingPriceVersion}

theorem priceOf_ok {priceVersionId : Uuid} (h : priceOf ctx priceVersionId = .ok price) :
    ctx.prices.find? (·.id = priceVersionId) = some price ∧
      price.workspaceId.any (· ≠ ctx.workspaceId) = false ∧
      pricingIsEffective price.state price.effectiveAt price.retiredAt ctx.now = true := by
  unfold priceOf at h
  split at h
  · cases h
  · split_ifs at h with hforeign heffective
    cases h
    exact ⟨‹_›, by simpa using hforeign, by simpa using heffective⟩

theorem priceOf_of {priceVersionId : Uuid} (hfind : ctx.prices.find? (·.id = priceVersionId) = some price)
    (hvisible : price.workspaceId.any (· ≠ ctx.workspaceId) = false)
    (heffective : pricingIsEffective price.state price.effectiveAt price.retiredAt ctx.now = true) :
    priceOf ctx priceVersionId = .ok price := by
  unfold priceOf
  simp only [hfind, hvisible, heffective, Bool.false_eq_true, ↓reduceIte, Bool.not_true]

theorem budgetPrice_ok {readers : PolicyReaders} {now : Int} {operation : PolicyFields}
    {request : BudgetRequest} (h : budgetPrice readers ctx now operation request = .ok price) :
    ctx.prices.find? (·.id = price.id) = some price ∧ price.workspaceId.any (· ≠ ctx.workspaceId) = false ∧
      pricingIsEffective price.state price.effectiveAt price.retiredAt now = true ∧
      price.costCurrency = request.currency ∧ 0 < price.creditUnitPrice := by
  obtain ⟨priceVersionId, _, h⟩ := bind_ok h
  obtain ⟨found, hfound, h⟩ := bind_ok h
  obtain ⟨_, heffective, h⟩ := bind_ok h
  obtain ⟨_, _, h⟩ := bind_ok h
  obtain ⟨_, hcurrency, h⟩ := bind_ok h
  obtain ⟨_, hcredit, h⟩ := bind_ok h
  have heffective := require_ok heffective
  have hcurrency := require_ok hcurrency
  have hcredit := require_ok hcredit
  cases h
  unfold visiblePrice at hfound
  split at hfound
  · cases hfound
  · rename_i row hfind
    split_ifs at hfound with hforeign
    cases hfound
    have hid : price.id = priceVersionId := by simpa using find?_some hfind
    exact ⟨hid ▸ hfind, by simpa using hforeign, heffective, hcurrency, hcredit⟩

end

/-- What a reserved hold keeps of its price version. -/
structure PricedHold (ctx : CallContext) (now : Int) (hold : CreditHold)
    (price : BillingPriceVersion) (authorizedCost : ℚ) : Prop where
  found : ctx.prices.find? (·.id = hold.priceVersionId) = some price
  visible : price.workspaceId.any (· ≠ ctx.workspaceId) = false
  active : price.state = .active
  effective : price.effectiveAt ≤ now
  credit_pos : 0 < price.creditUnitPrice
  snapshot : hold.pricingSnapshot = priceSnapshot price
  maximum : priceCreditAmount price authorizedCost = .ok hold.maximumAmount
  maximum_lt : hold.maximumAmount < 10 ^ 19
  subject : textFits 1 500 hold.subjectId = true

theorem Reserved.priced {readers : PolicyReaders} {rows : BudgetPolicyRows} {ctx : CallContext}
    {now : Int} {request : BudgetRequest} {hold : CreditHold}
    {authorization : BudgetAuthorization} {basis : BudgetBasis} {data : CreditHoldCreate}
    {b₁ : Books} (h : Reserved readers rows ctx now request hold authorization basis data b₁) :
    PricedHold ctx now hold basis.price authorization.authorizedCost := by
  obtain ⟨hfind, hvisible, heffective, -, hcredit⟩ := budgetPrice_ok h.authorizes.price
  have hrequests := reservationData_ok h.checked
  obtain ⟨price, hprice, hid, hsnapshot⟩ := h.price
  have hfound := (priceOf_ok hprice).1
  rw [hrequests.price, h.authorizes.price_id, hfind] at hfound
  cases hfound
  simp only [pricingIsEffective, Bool.and_eq_true, decide_eq_true_eq] at heffective
  refine ⟨hid ▸ hfind, hvisible, heffective.1.1, heffective.1.2, hcredit, hsnapshot, ?_, ?_, ?_⟩
  · rw [h.authorizes.cost, h.amount]
    exact h.authorizes.credits
  · rw [h.amount]
    exact h.authorizes.credits_lt
  · rw [h.subject]
    exact hrequests.subject

/-! ## Finalizing a live hold -/

theorem insertEntry_of {entry : CreditLedgerEntry} {b : Books}
    (hid : ∀ other ∈ b.entries, other.id ≠ entry.id)
    (hkey : ∀ other ∈ b.entries, other.idempotencyKey ≠ entry.idempotencyKey)
    (hplain : entry.reversalOfId = none) (hwidth : entry.idempotencyKey.length ≤ 255)
    (hfits : entryFits entry) : insertEntry entry b = .ok { b with entries := b.entries ++ [entry] } := by
  unfold insertEntry
  rw [if_neg (by simpa using hid), if_neg (by simpa using hkey), if_neg (by simp [hplain]),
    if_neg (by omega), if_neg (by simp [hfits.1, hfits.2])]

theorem insertEntries_of {new : List CreditLedgerEntry} {b : Books}
    (hnew : ∀ entry ∈ new, ∀ other ∈ b.entries, other.id ≠ entry.id ∧
      other.idempotencyKey ≠ entry.idempotencyKey)
    (hdistinct : new.Pairwise fun entry other => entry.id ≠ other.id ∧
      entry.idempotencyKey ≠ other.idempotencyKey)
    (hplain : ∀ entry ∈ new, entry.reversalOfId = none ∧ entry.idempotencyKey.length ≤ 255 ∧
      entryFits entry) : insertEntries new b = .ok { b with entries := b.entries ++ new } := by
  induction new generalizing b with
  | nil => simp [insertEntries]
  | cons entry new ih =>
    obtain ⟨hhead, htail⟩ := pairwise_cons.mp hdistinct
    obtain ⟨hreversal, hwidth, hfits⟩ := hplain entry mem_cons_self
    have hfresh := hnew entry mem_cons_self
    have hentry := insertEntry_of (fun other hother => (hfresh other hother).1)
      (fun other hother => (hfresh other hother).2) hreversal hwidth hfits
    unfold insertEntries
    rw [bind_of_ok hentry, ih ?_ htail fun other hother =>
      hplain other (mem_cons_of_mem _ hother)]
    · simp
    · intro later hlater other hother
      rcases mem_append.mp hother with hother | hother
      · exact hnew later (mem_cons_of_mem _ hlater) other hother
      · rw [mem_singleton.mp hother]
        exact hhead later hlater

/-- A terminal event that a worker sends and that has left no trace yet; the ids drawn for its
rows are fresh. -/
structure NewEvent (ctx : CallContext) (event : TerminalEvent) (s : MeteredBooks) : Prop where
  id_fits : textFits 8 238 event.completionEventId = true
  subject : textFits 1 80 event.subjectType = true
  failure : event.failureClass.all (textFits 2 80) = true
  reason : event.reasonCode.all (textFits 3 120) = true
  pair : event.failureClass.isNone = event.reasonCode.isNone
  usage : ∀ row ∈ s.usage, row.sourceEventId ≠ event.completionEventId
  usage_id : ∀ row ∈ s.usage, row.id ≠ ctx.newId 3
  holds : ∀ row ∈ s.books.holds, row.finalizationEventId ≠ some event.completionEventId
  consume_key : ∀ entry ∈ s.books.entries,
    entry.idempotencyKey ≠ "finalize:" ++ event.completionEventId ++ ":consume"
  release_key : ∀ entry ∈ s.books.entries,
    entry.idempotencyKey ≠ "finalize:" ++ event.completionEventId ++ ":release"
  consume_id : ∀ entry ∈ s.books.entries, entry.id ≠ ctx.newId 1
  release_id : ∀ entry ∈ s.books.entries, entry.id ≠ ctx.newId 2
  distinct : ctx.newId 1 ≠ ctx.newId 2

variable {settled : CreditHold}

section Event

variable {ctx : CallContext} {event : TerminalEvent} {s : MeteredBooks} {hold row : CreditHold}
  {data : CreditHoldFinalize}

theorem finalizeKey_fits {id : String} (h : textFits 8 238 id = true) :
    ("finalize:" ++ id ++ ":consume").length ≤ 255 ∧
      ("finalize:" ++ id ++ ":release").length ≤ 255 := by
  have hprefix : "finalize:".length = 9 := by decide
  have hconsume : ":consume".length = 8 := by decide
  have hrelease : ":release".length = 8 := by decide
  simp only [textFits, Bool.and_eq_true, decide_eq_true_eq] at h
  simp only [String.length_append, hprefix, hconsume, hrelease]
  omega

/-- What the entries of a settlement are written under, and the balances they carry. -/
structure SettlementEntry (ctx : CallContext) (data : CreditHoldFinalize)
    (account : CreditAccount) (entry : CreditLedgerEntry) : Prop where
  key : entry.id = ctx.newId 1 ∧
      entry.idempotencyKey = "finalize:" ++ data.finalizationEventId ++ ":consume" ∨
    entry.id = ctx.newId 2 ∧ entry.idempotencyKey = "finalize:" ++ data.finalizationEventId ++ ":release"
  plain : entry.reversalOfId = none
  available : entry.availableAfter = account.availableBalance
  held : entry.heldAfter = account.heldBalance

theorem mem_finalizeEntries {account : CreditAccount} {result : HoldFinalization} {entry : CreditLedgerEntry}
    (h : entry ∈ finalizeEntries ctx data hold account result) : SettlementEntry ctx data account entry := by
  unfold finalizeEntries at h
  rcases mem_append.mp h with h | h
  · split_ifs at h
    · rw [mem_singleton.mp h]
      exact ⟨.inl ⟨rfl, rfl⟩, rfl, rfl, rfl⟩
    · cases h
  · split_ifs at h
    · rw [mem_singleton.mp h]
      exact ⟨.inr ⟨rfl, rfl⟩, rfl, rfl, rfl⟩
    · cases h

theorem insertEntries_finalize (hnew : NewEvent ctx event s)
    (hdata : data.finalizationEventId = event.completionEventId) {b : Books}
    (hentries : b.entries = s.books.entries) {account : CreditAccount}
    {result : HoldFinalization} (havailable : numericFits account.availableBalance = true)
    (hheld : numericFits account.heldBalance = true) :
    ∃ after, insertEntries (finalizeEntries ctx data hold account result) b = .ok after := by
  obtain ⟨hconsume, hrelease⟩ := finalizeKey_fits hnew.id_fits
  refine ⟨_, insertEntries_of ?_ ?_ ?_⟩
  · intro entry hentry other hother
    rw [hentries] at hother
    obtain ⟨hid, hkey⟩ | ⟨hid, hkey⟩ := (mem_finalizeEntries hentry).key
    · rw [hid, hkey, hdata]
      exact ⟨hnew.consume_id other hother, hnew.consume_key other hother⟩
    · rw [hid, hkey, hdata]
      exact ⟨hnew.release_id other hother, hnew.release_key other hother⟩
  · have hdistinct := hnew.distinct
    unfold finalizeEntries
    split_ifs <;> simp [hdistinct]
  · intro entry hentry
    obtain ⟨hkey, hplain, hafter, hheldAfter⟩ := mem_finalizeEntries hentry
    refine ⟨hplain, ?_, ?_, ?_⟩
    · rcases hkey with ⟨-, hkey⟩ | ⟨-, hkey⟩ <;> rw [hkey, hdata]
      · exact hconsume
      · exact hrelease
    · rw [hafter]
      exact havailable
    · rw [hheldAfter]
      exact hheld

theorem updateHold_of {b : Books} (hnew : NewEvent ctx event s) (hholds : b.holds = s.books.holds)
    (hrow : row.finalizationEventId = some event.completionEventId) : updateHold row b =
      .ok { b with holds := updateRow (·.id) row.id (fun _ => row) b.holds } := by
  unfold updateHold
  rw [if_neg]
  rintro ⟨-, hused⟩
  obtain ⟨other, hother, hsame⟩ := any_eq_true.mp hused
  simp only [ne_eq, hrow, decide_eq_true_eq] at hsame
  exact hnew.holds other (hholds ▸ hother) hsame.2

/-- A live hold takes every amount within its maximum, as long as the balances fit. -/
theorem finalizeHold_of (hb : BooksInvariant s.books) (hrow : row ∈ s.books.holds) (hheld : row.state = .held)
    (hnew : NewEvent ctx event s) (hdata : data.finalizationEventId = event.completionEventId)
    (hle : data.actualAmount ≤ row.maximumAmount)
    (havailable : numericFits (availableBalance s.books + (row.maximumAmount - data.actualAmount)) = true)
    (hfits : numericFits (heldBalance s.books - row.maximumAmount) = true) :
    ∃ answer, finalizeHold ctx row.id data s.books = .ok answer := by
  have hpos := hb.hold_positive row hrow
  have hnonneg := data.actualAmount_nonneg
  set result : HoldFinalization :=
    ⟨data.actualAmount, row.maximumAmount - data.actualAmount, false⟩ with hresult
  have hamounts : finalizeHoldAmounts row.state row.maximumAmount data.actualAmount
      row.actualAmount = .ok result := by
    unfold finalizeHoldAmounts
    simp [requirePositiveAmount, requireNonnegativeAmount, hheld, bind, Except.bind,
      not_le.mpr hpos, not_lt.mpr hnonneg, not_lt.mpr hle, hresult]
  have hsum : result.consumed + result.released = row.maximumAmount := by
    simp [hresult]
  obtain ⟨account, b₁, hdrawn, hsettle⟩ := settleHold_eq ctx data hb hrow hheld hsum hnonneg
    (by simp only [hresult]; omega)
  have hupdate : updateHold (settledRow ctx data row result) b₁ = .ok { b₁ with
      holds := updateRow (·.id) (settledRow ctx data row result).id
        (fun _ => settledRow ctx data row result) b₁.holds } :=
    updateHold_of hnew hdrawn.holds (congrArg some hdata)
  obtain ⟨after, hentries⟩ : ∃ after, insertEntries (finalizeEntries ctx data row account result)
      { b₁ with
        holds := updateRow (·.id) (settledRow ctx data row result).id
          (fun _ => settledRow ctx data row result) b₁.holds } = .ok after := by
    refine insertEntries_finalize hnew hdata ?_ ?_ ?_
    · exact hdrawn.entries
    · rw [hdrawn.available]
      exact havailable
    · rw [hdrawn.held]
      exact hfits
  refine ⟨(settledRow ctx data row result, after), ?_⟩
  unfold finalizeHold
  rw [bind_of_ok (holdOf_eq hb hrow), bind_of_ok hamounts]
  simp only [hresult, Bool.false_eq_true, ↓reduceIte]
  rw [← hresult, hsettle, bind_of_ok hupdate]
  exact bind_of_ok hentries _

theorem finalizeHold_balances {b after : Books} (hb : BooksInvariant b) (hrow : row ∈ b.holds)
    (hheld : row.state = .held) (h : finalizeHold ctx row.id data b = .ok (settled, after)) :
    availableBalance after = availableBalance b + (row.maximumAmount - data.actualAmount) ∧
      heldBalance after = heldBalance b - row.maximumAmount := by
  obtain ⟨found, hfound, h⟩ := bind_ok h
  rw [holdOf_eq hb hrow] at hfound
  cases hfound
  obtain ⟨result, hresult, h⟩ := bind_ok h
  have hamounts : result = ⟨data.actualAmount, row.maximumAmount - data.actualAmount, false⟩ := by
    obtain ⟨_, _, hresult⟩ := bind_ok hresult
    obtain ⟨_, _, hresult⟩ := bind_ok hresult
    simp only [hheld] at hresult
    split_ifs at hresult
    cases hresult
    rfl
  rw [hamounts] at h
  simp only [Bool.false_eq_true, ↓reduceIte] at h
  obtain ⟨account, haccount, h⟩ := bind_ok h
  obtain ⟨⟨left, b₁⟩, _, h⟩ := bind_ok h
  simp only at h
  split_ifs at h
  obtain ⟨_, _, h⟩ := bind_ok h
  obtain ⟨b₂, hupdate, h⟩ := bind_ok h
  obtain ⟨b₃, hentries, h⟩ := bind_ok h
  cases updateHold_ok hupdate
  cases insertEntries_ok hentries
  cases h
  rw [availableBalance_some (accountOf_ok haccount), heldBalance_some (accountOf_ok haccount)]
  exact ⟨rfl, rfl⟩

end Event

/-! ## Settling what was authorized -/

/-- The credits a cost comes to at a price version. -/
def actualCredits (price : BillingPriceVersion) (actualCost : Int) : Except Failure Int :=
  if 0 < actualCost then priceCreditAmount price (numeric actualCost) else .ok 0

/-- The price version still meters the cost at that time: it is not retired, its metric has a
name, and cost and internal cost have at most 13 digits before their points. -/
structure Meters (price : BillingPriceVersion) (occurredAt actualCost : Int) : Prop where
  unretired : ∀ retired, price.retiredAt = some retired → occurredAt < retired
  metric : textFits 1 160 price.metricKey = true
  cost : actualCost < 10 ^ 19
  internal : ∃ units, pricedQuantity price (numeric actualCost) = .ok units ∧
    numericFits (storedNumeric (internalCost price units)) = true

structure JobSettled (price : BillingPriceVersion) (hold row : CreditHold)
    (event : TerminalEvent) (s after : MeteredBooks) : Prop where
  stored : row ∈ after.books.holds
  id : row.id = hold.id
  state : row.state = .finalized
  amount : ∃ credits, actualCredits price event.actualCost = .ok credits ∧
    row.actualAmount = some credits ∧ credits ≤ hold.maximumAmount
  usage : 0 < event.actualCost → ∃ usage, after.usage = s.usage ++ [usage] ∧
    usage.sourceEventId = event.completionEventId ∧ usage.quantity = event.actualCost ∧
    actualCredits price event.actualCost = .ok usage.creditAmount
  held : heldBalance after.books = heldBalance s.books - hold.maximumAmount
  released : ∀ allocation ∈ liveAllocations after.books, allocation.holdId ≠ hold.id

section Settlement

variable {ctx laterCtx : CallContext} {now occurredAt : Int} {event : TerminalEvent}
  {s after : MeteredBooks} {hold row : CreditHold} {price : BillingPriceVersion}
  {authorizedCost : ℚ}

section

variable (h : PricedHold ctx now hold price authorizedCost)

include h

theorem PricedHold.later (hworkspace : laterCtx.workspaceId = ctx.workspaceId)
    (hfound : laterCtx.prices.find? (·.id = hold.priceVersionId) = some price)
    (hplacement : placement row = placement hold) : PricedHold laterCtx now row price authorizedCost := by
  have hid : row.priceVersionId = hold.priceVersionId :=
    eq_of_placement (·.priceVersionId) (fun _ => rfl) hplacement
  have hsnapshot : row.pricingSnapshot = hold.pricingSnapshot :=
    eq_of_placement (·.pricingSnapshot) (fun _ => rfl) hplacement
  have hmaximum : row.maximumAmount = hold.maximumAmount :=
    eq_of_placement (·.maximumAmount) (fun _ => rfl) hplacement
  have hsubject : row.subjectId = hold.subjectId :=
    eq_of_placement (·.subjectId) (fun _ => rfl) hplacement
  refine ⟨by rw [hid]; exact hfound, by rw [hworkspace]; exact h.visible, h.active, h.effective,
    h.credit_pos, hsnapshot.trans h.snapshot, ?_, ?_, ?_⟩
  · rw [hmaximum]
    exact h.maximum
  · rw [hmaximum]
    exact h.maximum_lt
  · rw [hsubject]
    exact h.subject

/-- The price of the hold is effective from the authorization until it is retired. -/
theorem PricedHold.priceOf_iff (hclock : now ≤ occurredAt) :
    priceOf { ctx with now := occurredAt } hold.priceVersionId = .ok price ↔
      ∀ retired, price.retiredAt = some retired → occurredAt < retired := by
  have heffective : pricingIsEffective price.state price.effectiveAt price.retiredAt occurredAt =
      true ↔ ∀ retired, price.retiredAt = some retired → occurredAt < retired := by
    have hstarted : price.effectiveAt ≤ occurredAt := h.effective.trans hclock
    cases price.retiredAt <;> simp [pricingIsEffective, h.active, hstarted]
  constructor
  · intro hprice
    exact heffective.mp (priceOf_ok hprice).2.2
  · intro hretired
    exact priceOf_of h.found h.visible (heffective.mpr hretired)

/-- An authorized cost comes to an amount within the hold. -/
theorem PricedHold.credits (hsize : 0 < price.unitSize) (hpos : 0 < hold.maximumAmount)
    {actualCost : Int} (hcost : 0 ≤ actualCost) (hle : numeric actualCost ≤ authorizedCost) :
    ∃ credits, actualCredits price actualCost = .ok credits ∧ 0 ≤ credits ∧
      credits ≤ hold.maximumAmount := by
  unfold actualCredits
  split
  · exact priceCreditAmount_mono hsize h.credit_pos.le (numeric_nonneg hcost) hle h.maximum
  · exact ⟨0, rfl, le_rfl, hpos.le⟩

section

variable (hclock : now ≤ occurredAt) (hnew : NewEvent ctx event s) {credits : Int}

include hclock hnew

theorem terminalCredits_ok {usage : List UsageRecord}
    (hcredits : terminalCredits ctx hold occurredAt event s.usage = .ok (credits, usage)) :
    (0 < event.actualCost → Meters price occurredAt event.actualCost) ∧
      actualCredits price event.actualCost = .ok credits ∧
      (0 < event.actualCost → ∃ row, usage = s.usage ++ [row] ∧
        row.sourceEventId = event.completionEventId ∧ row.quantity = event.actualCost ∧
        actualCredits price event.actualCost = .ok row.creditAmount) := by
  unfold terminalCredits at hcredits
  unfold actualCredits
  by_cases hpositive : 0 < event.actualCost
  · rw [if_pos hpositive] at hcredits
    obtain ⟨_, haccepted, hcredits⟩ := bind_ok hcredits
    have haccepted := require_ok haccepted
    obtain ⟨⟨row, rows⟩, hrecord, hcredits⟩ := bind_ok hcredits
    cases hcredits
    obtain ⟨found, units, amount, hprice, hunits, hamount, hrow, happended, hcost⟩ :=
      recordUsage_ok hnew.usage hrecord
    have hfound := (priceOf_ok hprice).1
    have hsame : found = price := Option.some.inj (hfound.symm.trans h.found)
    rw [hsame] at hprice hunits hamount hrow hcost
    have hmetric : (usageRequest hold occurredAt event).metricKey = price.metricKey := by
      simp [usageRequest, h.snapshot, priceSnapshot]
    simp only [usageAccepted, Bool.and_eq_true, decide_eq_true_eq, hmetric] at haccepted
    have hamount : priceCreditAmount price (numeric event.actualCost) = .ok amount := hamount
    rw [if_pos hpositive, hrow]
    refine ⟨fun _ => ⟨(h.priceOf_iff hclock).mp hprice, haccepted.1.1.2, haccepted.2, units,
      hunits, hcost⟩, hamount, fun _ => ⟨_, happended.trans (by rw [hrow]), rfl, rfl, hamount⟩⟩
  · rw [if_neg hpositive] at hcredits
    cases hcredits
    rw [if_neg hpositive]
    exact ⟨fun hcost => absurd hcost hpositive, rfl, fun hcost => absurd hcost hpositive⟩

theorem terminalCredits_of (hmeters : 0 < event.actualCost → Meters price occurredAt event.actualCost)
    (hcredits : actualCredits price event.actualCost = .ok credits) (hfits : numericFits credits = true) :
    ∃ usage, terminalCredits ctx hold occurredAt event s.usage = .ok (credits, usage) := by
  unfold terminalCredits
  unfold actualCredits at hcredits
  by_cases hpositive : 0 < event.actualCost
  · rw [if_pos hpositive] at hcredits ⊢
    obtain ⟨hunretired, hmetric, hcost, units, hunits, hinternal⟩ := hmeters hpositive
    have hkey : (usageRequest hold occurredAt event).metricKey = price.metricKey := by
      simp [usageRequest, h.snapshot, priceSnapshot]
    have hid : textFits 8 500 event.completionEventId = true := by
      have := hnew.id_fits
      simp only [textFits, Bool.and_eq_true, decide_eq_true_eq] at this ⊢
      omega
    have haccepted : usageAccepted (usageRequest hold occurredAt event) = true := by
      simp only [usageAccepted, Bool.and_eq_true, decide_eq_true_eq, hkey]
      exact ⟨⟨⟨⟨⟨hid, hnew.subject⟩, h.subject⟩, hmetric⟩, hpositive⟩, hcost⟩
    have hrecord : recordUsage ctx (usageRequest hold occurredAt event) s.usage = _ :=
      recordUsage_of hnew.usage_id hnew.usage ((h.priceOf_iff hclock).mpr hunretired) hkey.symm
        hunits hcredits hfits hinternal
    rw [bind_of_ok (require_of haccepted _), bind_of_ok hrecord]
    exact ⟨_, rfl⟩
  · rw [if_neg hpositive] at hcredits ⊢
    cases hcredits
    exact ⟨_, rfl⟩

end

end

theorem finalizeRequest_ok {credits : Int} {data : CreditHoldFinalize}
    (h : finalizeRequest event credits = .ok data) :
    data.actualAmount = credits ∧ data.finalizationEventId = event.completionEventId := by
  unfold finalizeRequest at h
  split_ifs at h
  cases h
  exact ⟨rfl, rfl⟩

theorem finalizeRequest_of (hnew : NewEvent ctx event s) {credits : Int} (hnonneg : 0 ≤ credits)
    (hlt : credits < 10 ^ 19) : ∃ data, finalizeRequest event credits = .ok data := by
  have hid : textFits 8 500 event.completionEventId = true := by
    have := hnew.id_fits
    simp only [textFits, Bool.and_eq_true, decide_eq_true_eq] at this ⊢
    omega
  unfold finalizeRequest
  rw [dif_pos hnonneg, dif_pos hnew.pair, if_pos ⟨hlt, hid, hnew.failure, hnew.reason⟩]
  exact ⟨_, rfl⟩

theorem finalizeJob_ok (hrow : holdOf row.id s.books = .ok row)
    (h : finalizeJob ctx row.id occurredAt event s = .ok (settled, after)) :
    ∃ credits data, terminalCredits ctx row occurredAt event s.usage =
        .ok (credits, after.usage) ∧ finalizeRequest event credits = .ok data ∧
      finalizeHold ctx row.id data s.books = .ok (settled, after.books) := by
  obtain ⟨_, _, h⟩ := bind_ok h
  obtain ⟨found, hfound, h⟩ := bind_ok h
  rw [hrow] at hfound
  cases hfound
  obtain ⟨_, _, h⟩ := bind_ok h
  obtain ⟨⟨credits, usage⟩, hcredits, h⟩ := bind_ok h
  obtain ⟨data, hdata, h⟩ := bind_ok h
  obtain ⟨⟨final, books⟩, hfinal, h⟩ := bind_ok h
  cases h
  exact ⟨credits, data, hcredits, hdata, hfinal⟩

section

variable {b b' : Books} {data : CreditHoldFinalize} (hb : BooksInvariant b) (hrow : row ∈ b.holds)
    (hheld : row.state = .held) (h : finalizeHold ctx row.id data b = .ok (settled, b'))

include hb hrow hheld h

theorem finalizeHold_settled : settled.id = row.id ∧ settled.state = .finalized ∧
      settled.actualAmount = some data.actualAmount ∧ settled ∈ b'.holds ∧
      ∀ allocation ∈ liveAllocations b', allocation.holdId ≠ row.id := by
  have hb' := (effect_finalizeHold hb h).books hb
  have hperform : Settlement.perform ctx row.id b (.finalize data) = .ok (settled, b') := h
  cases settlementOutcome_finalize ctx data hb hrow with
  | settled final books _ hfinal hid _ hactual hrecords _ hholds =>
    rw [hperform] at hfinal
    cases hfinal
    have hstored : settled ∈ b'.holds := by
      rw [hholds]
      exact mem_updateRow_of_mem hrow rfl
    refine ⟨hid, hrecords.1, hactual, hstored, ?_⟩
    intro allocation hallocation hhold
    obtain ⟨other, hother, hsame, hlive⟩ := liveHold_iff.mp (mem_liveAllocations.mp hallocation).2
    have heq : other = settled :=
      hb'.holds_keyed.eq_of_key_eq hother hstored (by rw [hsame, hhold, hid])
    rw [heq, hrecords.1] at hlive
    cases hlive
  | repeated hrecords _ => exact absurd (hheld.symm.trans hrecords.1) (by simp)
  | refused error _ hrefused =>
    rw [hperform] at hrefused
    cases hrefused
  | rejected constraint _ _ hrejected =>
    rw [hperform] at hrejected
    cases hrejected

theorem finalizeHold_within : data.actualAmount ≤ row.maximumAmount := by
  obtain ⟨found, hfound, h⟩ := bind_ok h
  rw [holdOf_eq hb hrow] at hfound
  cases hfound
  obtain ⟨result, hresult, -⟩ := bind_ok h
  obtain ⟨_, _, hresult⟩ := bind_ok hresult
  obtain ⟨_, _, hresult⟩ := bind_ok hresult
  simp only [hheld] at hresult
  split_ifs at hresult with hexceeds
  exact not_lt.mp hexceeds

end

/-- Whatever `_finalize` returns for a live hold is a settlement of the job. -/
theorem jobSettled_of_ok (hb : BooksInvariant s.books) (hrow : row ∈ s.books.holds)
    (hheld : row.state = .held) (hpriced : PricedHold ctx now row price authorizedCost)
    (hclock : now ≤ occurredAt) (hnew : NewEvent ctx event s)
    (h : finalizeJob ctx row.id occurredAt event s = .ok (settled, after)) :
    JobSettled price row settled event s after := by
  obtain ⟨credits, data, hcredits, hdata, hfinal⟩ := finalizeJob_ok (holdOf_eq hb hrow) h
  obtain ⟨hamount, -⟩ := finalizeRequest_ok hdata
  obtain ⟨-, hactual, husage⟩ := terminalCredits_ok hpriced hclock hnew hcredits
  obtain ⟨hid, hstate, hactualAmount, hstored, hreleased⟩ := finalizeHold_settled hb hrow hheld hfinal
  obtain ⟨-, hheldAfter⟩ := finalizeHold_balances hb hrow hheld hfinal
  have hwithin := finalizeHold_within hb hrow hheld hfinal
  rw [hamount] at hactualAmount hwithin
  exact ⟨hstored, hid, hstate, ⟨credits, hactual, hactualAmount, hwithin⟩, husage, hheldAfter, hreleased⟩

section

variable (hb : BoundedBooks s.books) (hrow : row ∈ s.books.holds) (hheld : row.state = .held)
    (hpriced : PricedHold ctx now row price authorizedCost) (hclock : now ≤ occurredAt)
    (hnew : NewEvent ctx event s) (hsize : 0 < price.unitSize) (hcost : 0 ≤ event.actualCost)

include hb hrow hheld hpriced hclock hnew hsize hcost

/-- `_finalize` settles the live hold exactly when the price still meters the cost, its credits
are within the hold, and what is returned fits the available balance. -/
theorem finalizeJob_credits_iff (hcurrency : event.currency = row.pricingSnapshot.costCurrency) :
    (∃ settled after, finalizeJob ctx row.id occurredAt event s = .ok (settled, after) ∧
        JobSettled price row settled event s after) ↔
      (0 < event.actualCost → Meters price occurredAt event.actualCost) ∧
        ∃ credits, actualCredits price event.actualCost = .ok credits ∧ credits ≤ row.maximumAmount ∧
          numericFits (availableBalance s.books + (row.maximumAmount - credits)) = true := by
  constructor
  · rintro ⟨settled, after, h, hsettled⟩
    obtain ⟨credits, data, hcredits, hdata, hfinal⟩ := finalizeJob_ok (holdOf_eq hb.books hrow) h
    obtain ⟨hamount, -⟩ := finalizeRequest_ok hdata
    obtain ⟨hmeters, hactual, -⟩ := terminalCredits_ok hpriced hclock hnew hcredits
    obtain ⟨havailable, -⟩ := finalizeHold_balances hb.books hrow hheld hfinal
    have hfits := ((effect_finalizeHold hb.books hfinal).balancesFit hb.books hb.fit).1
    have hwithin := finalizeHold_within hb.books hrow hheld hfinal
    rw [havailable, hamount] at hfits
    rw [hamount] at hwithin
    exact ⟨hmeters, credits, hactual, hwithin, hfits⟩
  · rintro ⟨hmeters, credits, hactual, hmaximum, hfits⟩
    have hnonneg : 0 ≤ credits := by
      have hactual := hactual
      unfold actualCredits at hactual
      split at hactual
      · obtain ⟨less, hless, hless_nonneg, -⟩ := priceCreditAmount_mono hsize hpriced.credit_pos.le
          (numeric_nonneg hcost) le_rfl hactual
        rw [hactual] at hless
        cases hless
        exact hless_nonneg
      · cases hactual
        exact le_rfl
    have hlt : credits < 10 ^ 19 := hmaximum.trans_lt hpriced.maximum_lt
    have hcreditsFit : numericFits credits = true := by
      simp only [numericFits, decide_eq_true_eq]
      omega
    obtain ⟨usage, hcredits⟩ := terminalCredits_of hpriced hclock hnew hmeters hactual hcreditsFit
    obtain ⟨data, hdata⟩ := finalizeRequest_of hnew hnonneg hlt
    obtain ⟨hamount, hevent⟩ := finalizeRequest_ok hdata
    have hheldFits : numericFits (heldBalance s.books - row.maximumAmount) = true := by
      have hpos := hb.books.hold_positive row hrow
      have hle := maximumAmount_le_heldBalance hb.books hrow hheld
      have hbound := hb.fit.2
      simp only [numericFits, decide_eq_true_eq] at hbound ⊢
      omega
    obtain ⟨⟨settled, books⟩, hfinal⟩ : ∃ answer, finalizeHold ctx row.id data s.books =
        .ok answer := by
      refine finalizeHold_of hb.books hrow hheld hnew hevent ?_ ?_ hheldFits
      · rw [hamount]
        exact hmaximum
      · rw [hamount]
        exact hfits
    have hjob : finalizeJob ctx row.id occurredAt event s = .ok (settled, ⟨books, usage⟩) := by
      unfold finalizeJob
      rw [bind_of_ok (require_of hcost _), bind_of_ok (holdOf_eq hb.books hrow),
        bind_of_ok (require_of hcurrency.symm _), bind_of_ok hcredits]
      simp only
      rw [bind_of_ok hdata]
      exact bind_of_ok hfinal _
    exact ⟨settled, _, hjob, jobSettled_of_ok hb.books hrow hheld hpriced hclock hnew hjob⟩

/-- For a cost within what was authorized the credits are within the hold. -/
theorem finalizeJob_live_iff (hle : numeric event.actualCost ≤ authorizedCost)
    (hcurrency : event.currency = row.pricingSnapshot.costCurrency) :
    (∃ settled after, finalizeJob ctx row.id occurredAt event s = .ok (settled, after) ∧
        JobSettled price row settled event s after) ↔
      (0 < event.actualCost → Meters price occurredAt event.actualCost) ∧
        ∃ credits, actualCredits price event.actualCost = .ok credits ∧
          numericFits (availableBalance s.books + (row.maximumAmount - credits)) = true := by
  rw [finalizeJob_credits_iff hb hrow hheld hpriced hclock hnew hsize hcost hcurrency]
  obtain ⟨within, hwithin, -, hmaximum⟩ :=
    hpriced.credits hsize (hb.books.hold_positive row hrow) hcost hle
  refine and_congr_right fun _ => exists_congr fun credits => and_congr_right fun hactual => ?_
  rw [hwithin] at hactual
  cases hactual
  exact and_iff_right hmaximum

end

end Settlement

theorem boundedBooks_reachable {b : Books} (h : Reachable transact emptyBooks b) : BoundedBooks b :=
  invariant_reachable transact (fun _ => boundedBooks_initial) boundedBooks_transact h

section Placed

variable {readers : PolicyReaders} {rows : BudgetPolicyRows} {ctx laterCtx : CallContext}
  {now : Int} {request : BudgetRequest} {b b₁ : Books} {hold row : CreditHold}
  {authorization : BudgetAuthorization} {price : BillingPriceVersion} {s : MeteredBooks}

/-- A hold that `_reserve` created is still priced as then after any credit calls. -/
theorem priced_of_reserve (hreach : Reachable transact emptyBooks b)
    (hreserve : reserve readers rows ctx now request b = .ok ((hold, authorization), b₁))
    (hcreated : ∀ row ∈ b.holds, row.id ≠ hold.id)
    (hprice : ctx.prices.find? (·.id = hold.priceVersionId) = some price)
    (calls : List (CallContext × CreditCall)) (hbooks : s.books = run transact b₁ calls)
    (hrow : row ∈ s.books.holds) (hid : row.id = hold.id)
    (hworkspace : laterCtx.workspaceId = ctx.workspaceId)
    (hlater : laterCtx.prices.find? (·.id = hold.priceVersionId) = some price) :
    BoundedBooks s.books ∧ PricedHold laterCtx now row price authorization.authorizedCost ∧
      placement row = placement hold ∧ price.costCurrency = request.currency := by
  have hb := boundedBooks_reachable hreach
  obtain ⟨basis, data, hreserved⟩ := reserved_of_created hb.books hreserve hcreated
  obtain ⟨-, data', hdata, hcreate⟩ := reserve_ok hreserve
  have hb₁ : BoundedBooks b₁ :=
    ⟨hreserved.books, (effect_createHold hb.books hcreate).balancesFit hb.books hb.fit⟩
  have hs : BoundedBooks s.books := by
    rw [hbooks]
    exact invariant_run transact boundedBooks_transact hb₁ calls
  have hpriced := hreserved.priced
  have hsamePrice : basis.price = price := Option.some.inj (hpriced.found.symm.trans hprice)
  rw [hsamePrice] at hpriced
  -- the live row is the placed hold
  have hplacement : placement row = placement hold := by
    have hplaced : placement hold ∈ s.books.holds.map placement := by
      rw [hbooks]
      exact (placements_run hreserved.books calls).subset
        (mem_map_of_mem (mem_of_find?_eq_some hreserved.found))
    obtain ⟨other, hother, hsame⟩ := mem_map.mp hplaced
    have hotherId : other.id = hold.id := eq_of_placement (·.id) (fun _ => rfl) hsame
    have heq : row = other := hs.books.holds_keyed.eq_of_key_eq hrow hother (hid.trans hotherId.symm)
    rw [heq]
    exact hsame
  obtain ⟨-, -, -, hcurrency, -⟩ := budgetPrice_ok hreserved.authorizes.price
  rw [hsamePrice] at hcurrency
  exact ⟨hs, hpriced.later hworkspace hlater hplacement, hplacement, hcurrency⟩

theorem JobSettled.of_placement {event : TerminalEvent} {after : MeteredBooks}
    (h : JobSettled price row settled event s after) (hplacement : placement row = placement hold) :
    JobSettled price hold settled event s after := by
  have hid : row.id = hold.id := eq_of_placement (·.id) (fun _ => rfl) hplacement
  have hmaximum : row.maximumAmount = hold.maximumAmount :=
    eq_of_placement (·.maximumAmount) (fun _ => rfl) hplacement
  refine ⟨h.stored, h.id.trans hid, h.state, ?_, h.usage, ?_, ?_⟩
  · rw [← hmaximum]
    exact h.amount
  · rw [← hmaximum]
    exact h.held
  · rw [← hid]
    exact h.released

end Placed

/-- A hold that `_reserve` created for a maximum cost, still live after any credit calls: a new
terminal event with a cost up to that maximum settles the job exactly when the cost is zero or
the price version, not yet retired, still meters it, and the returned credits fit the available
balance. -/
theorem finalizeJob_settles_iff {readers : PolicyReaders} {rows : BudgetPolicyRows}
    {ctx laterCtx : CallContext} {now occurredAt : Int} {request : BudgetRequest} {b b₁ : Books}
    {hold row : CreditHold} {authorization : BudgetAuthorization} {price : BillingPriceVersion}
    {event : TerminalEvent} {s : MeteredBooks} (hreach : Reachable transact emptyBooks b)
    (hreserve : reserve readers rows ctx now request b = .ok ((hold, authorization), b₁))
    (hcreated : ∀ row ∈ b.holds, row.id ≠ hold.id)
    (hprice : ctx.prices.find? (·.id = hold.priceVersionId) = some price) (hsize : 0 < price.unitSize)
    (calls : List (CallContext × CreditCall)) (hbooks : s.books = run transact b₁ calls)
    (hrow : row ∈ s.books.holds) (hid : row.id = hold.id) (hheld : row.state = .held)
    (hworkspace : laterCtx.workspaceId = ctx.workspaceId)
    (hlater : laterCtx.prices.find? (·.id = hold.priceVersionId) = some price)
    (hclock : now ≤ occurredAt) (hnew : NewEvent laterCtx event s) (hcost : 0 ≤ event.actualCost)
    (hle : numeric event.actualCost ≤ authorization.authorizedCost)
    (hcurrency : event.currency = hold.pricingSnapshot.costCurrency) :
    (∃ settled after, finalizeJob laterCtx hold.id occurredAt event s = .ok (settled, after) ∧
        JobSettled price hold settled event s after) ↔
      (0 < event.actualCost → Meters price occurredAt event.actualCost) ∧
        ∃ credits, actualCredits price event.actualCost = .ok credits ∧
          numericFits (availableBalance s.books + (hold.maximumAmount - credits)) = true := by
  obtain ⟨hs, hpriced, hplacement, -⟩ := priced_of_reserve hreach hreserve hcreated hprice calls
    hbooks hrow hid hworkspace hlater
  have hmaximum : row.maximumAmount = hold.maximumAmount :=
    eq_of_placement (·.maximumAmount) (fun _ => rfl) hplacement
  have hsnapshot : row.pricingSnapshot = hold.pricingSnapshot :=
    eq_of_placement (·.pricingSnapshot) (fun _ => rfl) hplacement
  have hiff := finalizeJob_live_iff hs hrow hheld hpriced hclock hnew hsize hcost hle
    (by rw [hsnapshot]; exact hcurrency)
  rw [hid, hmaximum] at hiff
  rw [← hiff]
  refine exists_congr fun settled => exists_congr fun after => and_congr_right fun _ => ?_
  constructor
  · exact fun h => h.of_placement hplacement.symm
  · exact fun h => h.of_placement hplacement

/-- The price of `contextAt`, retired right after the holds of the sample policy expire. -/
def retiringContextAt (now : Nat) : CallContext := { contextAt now with prices := [{
      id := 7, workspaceId := none, metricKey := "tokens", vendor := "vendor", vendorSku := "sku"
      version := 1, state := .active, unitName := "token", unitSize := 1000000
      creditUnitPrice := 1000000, internalUnitCost := 0, costCurrency := "KRW"
      rounding := some "PROPORTIONAL", pricingHash := "hash", effectiveAt := 0
      retiredAt := some (60 * 10 ^ 6 + 10) }] }

def sampleTerminalEvent : TerminalEvent where
  completionEventId := "repurpose-job:1:SUCCEEDED"
  subjectType := "repurpose_job"
  actualCost := 2000000
  currency := "KRW"
  failureClass := none
  reasonCode := none

/-- The hold is live, priced by the version 7, and nothing was written under the event yet. -/
def freshReservation (reservation : (CreditHold × BudgetAuthorization) × Books) : Bool :=
  reservation.1.1.priceVersionId = 7 ∧ reservation.1.1.state = .held ∧
    reservation.1.1.pricingSnapshot.costCurrency = "KRW" ∧
    reservation.1.2.authorizedCost = 3 ∧ reservation.1.1 ∈ reservation.2.holds ∧
    (∀ row ∈ reservation.2.holds, row.finalizationEventId = none) ∧
    ∀ entry ∈ reservation.2.entries, entry.id < 2000 ∧
      entry.idempotencyKey ≠ "finalize:repurpose-job:1:SUCCEEDED:consume" ∧
      entry.idempotencyKey ≠ "finalize:repurpose-job:1:SUCCEEDED:release"

theorem finalizeJob_settles_sample :
    ∃ hold authorization b₁, reserve samplePolicyReaders samplePolicyRows (retiringContextAt 10) 9
        sampleBudgetRequest fundedBooks = .ok ((hold, authorization), b₁) ∧
      ∃ price, (retiringContextAt 20).prices.find? (·.id = 7) = some price ∧
        ((∃ settled after, finalizeJob (retiringContextAt 20) hold.id 20 sampleTerminalEvent
              ⟨b₁, []⟩ = .ok (settled, after) ∧
            JobSettled price hold settled sampleTerminalEvent ⟨b₁, []⟩ after) ↔
          (0 < sampleTerminalEvent.actualCost → Meters price 20 sampleTerminalEvent.actualCost) ∧
            ∃ credits, actualCredits price sampleTerminalEvent.actualCost = .ok credits ∧
              numericFits (availableBalance b₁ + (hold.maximumAmount - credits)) = true) := by
  obtain ⟨⟨⟨hold, authorization⟩, b₁⟩, hreserve, htest⟩ :=
    ok_of_test (x := reserve samplePolicyReaders samplePolicyRows (retiringContextAt 10) 9
      sampleBudgetRequest fundedBooks) freshReservation (by decide +kernel)
  simp only [freshReservation, decide_eq_true_eq] at htest
  obtain ⟨hversion, hheld, hcurrency, hcost, hrow, hholds, hentries⟩ := htest
  have hnone : fundedBooks.holds = [] := by decide +kernel
  obtain ⟨price, hprice, hsize⟩ : ∃ price,
      (retiringContextAt 20).prices.find? (·.id = 7) = some price ∧ 0 < price.unitSize :=
    ⟨_, rfl, by decide⟩
  refine ⟨hold, authorization, b₁, hreserve, price, hprice, ?_⟩
  have hnew : NewEvent (retiringContextAt 20) sampleTerminalEvent ⟨b₁, []⟩ := by
    refine ⟨by decide, by decide, by decide, by decide, rfl, by simp, by simp, ?_, ?_, ?_, ?_, ?_, by decide⟩
    · intro row hmem
      rw [hholds row hmem]
      simp
    · exact fun entry hentry => (hentries entry hentry).2.1
    · exact fun entry hentry => (hentries entry hentry).2.2
    · exact fun entry hentry => ((hentries entry hentry).1.trans (by decide)).ne
    · exact fun entry hentry => ((hentries entry hentry).1.trans (by decide)).ne
  refine finalizeJob_settles_iff reachable_fundedBooks hreserve ?_ (hversion ▸ hprice) hsize []
    rfl hrow rfl hheld rfl (hversion ▸ hprice) (by decide) hnew (by decide) ?_ hcurrency.symm
  · simp [hnone]
  · rw [hcost]
    decide +kernel

/-- A job authorized for 3 that ends, at a cost of 2, after its price version was retired. -/
theorem retired_price_unsettled :
    ∃ hold authorization b₁, reserve samplePolicyReaders samplePolicyRows (retiringContextAt 10) 9
        sampleBudgetRequest fundedBooks = .ok ((hold, authorization), b₁) ∧
      Reachable transact emptyBooks fundedBooks ∧ (∀ row ∈ fundedBooks.holds, row.id ≠ hold.id) ∧
      hold ∈ b₁.holds ∧ hold.state = .held ∧
      numeric sampleTerminalEvent.actualCost ≤ authorization.authorizedCost ∧
      ∃ error, finalizeJob (retiringContextAt 61000000) hold.id 61000000 sampleTerminalEvent
        ⟨b₁, []⟩ = .error (.app error) ∧ error.code = "PRICING_VERSION_INACTIVE" := by
  obtain ⟨⟨⟨hold, authorization⟩, b₁⟩, hreserve, htest⟩ :=
    ok_of_test (x := reserve samplePolicyReaders samplePolicyRows (retiringContextAt 10) 9
      sampleBudgetRequest fundedBooks) freshReservation (by decide +kernel)
  simp only [freshReservation, decide_eq_true_eq] at htest
  obtain ⟨-, hheld, -, hcost, hrow, -, -⟩ := htest
  have hnone : fundedBooks.holds = [] := by decide +kernel
  refine ⟨hold, authorization, b₁, hreserve, reachable_fundedBooks, by simp [hnone], hrow, hheld, ?_, ?_⟩
  · rw [hcost]
    decide +kernel
  · have hrefused : (reserve samplePolicyReaders samplePolicyRows (retiringContextAt 10) 9
        sampleBudgetRequest fundedBooks >>= fun answer =>
        (finalizeJob (retiringContextAt 61000000) answer.1.1.id 61000000 sampleTerminalEvent
          ⟨answer.2, []⟩).map fun _ => ()) = .error (.app {
            code := "PRICING_VERSION_INACTIVE"
            message := "요청 시점에 유효한 정확한 가격표 버전이 필요합니다."
            statusCode := 409 }) := by
      decide +kernel
    rw [bind_of_ok hreserve] at hrefused
    exact ⟨_, map_error hrefused, rfl⟩

end BlogOps.Billing
