import BlogOps.CreditRows
import BlogOps.TransitionRuns

/-!
# Credit operations of the billing service

`create_credit_account`, `grant_credits`, `create_hold`, `finalize_hold`,
`release_hold` and `reverse_credit_debit` as functions on the books of one
workspace.  A call that raises leaves the books as they were: its transaction
is rolled back.  What a call reads from outside the books (the clock, fresh
ids, the price list, the request hash) is its context.
-/

namespace BlogOps.Billing

open KeyedTables

structure CallContext where
  workspaceId : Uuid
  actorId : Uuid
  now : Int
  newId : Nat → Uuid
  canonicalHash : CreditHoldCreate → String
  prices : List BillingPriceVersion

def accountOf (b : Books) : Except Failure CreditAccount :=
  match b.account with
  | some account => .ok account
  | none =>
    .error (.app {
      code := "CREDIT_ACCOUNT_NOT_CONFIGURED"
      message := "크레딧 계정이 아직 구성되지 않았습니다."
      statusCode := 409 })

variable (ctx : CallContext)

def priceOf (priceVersionId : Uuid) : Except Failure BillingPriceVersion :=
  match ctx.prices.find? (·.id = priceVersionId) with
  | none =>
    .error (.app {
      code := "PRICING_VERSION_NOT_FOUND"
      message := "가격표 버전을 찾을 수 없습니다."
      statusCode := 404 })
  | some price =>
    if price.workspaceId.any (· ≠ ctx.workspaceId) then
      .error (.app {
        code := "PRICING_VERSION_NOT_FOUND"
        message := "가격표 버전을 찾을 수 없습니다."
        statusCode := 404 })
    else if !pricingIsEffective price.state price.effectiveAt price.retiredAt ctx.now then
      .error (.app {
        code := "PRICING_VERSION_INACTIVE"
        message := "요청 시점에 유효한 정확한 가격표 버전이 필요합니다."
        statusCode := 409 })
    else .ok price

def priceSnapshot (price : BillingPriceVersion) : PriceSnapshot where
  priceVersionId := price.id
  metricKey := price.metricKey
  vendor := price.vendor
  vendorSku := price.vendorSku
  version := price.version
  unitName := price.unitName
  unitSize := price.unitSize
  creditUnitPrice := price.creditUnitPrice
  internalUnitCost := price.internalUnitCost
  costCurrency := price.costCurrency
  pricingHash := price.pricingHash
  rounding := price.rounding

def createCreditAccount (b : Books) : Except Failure (CreditAccount × Books) :=
  match b.account with
  | some existing => .ok (existing, b)
  | none =>
    let account : CreditAccount := { id := ctx.newId 0 }
    .ok (account, { b with account := some account })

def grantCredits (data : CreditGrantCreate) (b : Books) : Except Failure (CreditGrant × Books) := do
  let account ← accountOf b
  match b.grants.find? fun grant =>
      grant.sourceType = data.sourceType ∧ grant.sourceId = data.sourceId with
  | some existing =>
    if existing.originalAmount ≠ data.amount ∨ existing.bucketKind ≠ data.bucketKind then
      .error (.app {
        code := "CREDIT_GRANT_SOURCE_REUSED"
        message := "같은 지급 출처를 다른 크레딧 지급에 재사용할 수 없습니다."
        statusCode := 409 })
    else .ok (existing, b)
  | none =>
    if data.expiresAt.any (· ≤ ctx.now) then
      .error (.app {
        code := "CREDIT_GRANT_ALREADY_EXPIRED"
        message := "이미 만료된 크레딧을 지급할 수 없습니다."
        statusCode := 422 })
    else
      let grant : CreditGrant := {
        id := ctx.newId 0
        accountId := account.id
        bucketKind := data.bucketKind
        originalAmount := data.amount
        availableAmount := data.amount
        sourceType := data.sourceType
        sourceId := data.sourceId
        grantedAt := ctx.now
        expiresAt := data.expiresAt }
      let account := { account with availableBalance := account.availableBalance + data.amount }
      let b ← insertGrant grant { b with account := some account }
      let b ← insertEntry {
        id := ctx.newId 1
        accountId := account.id
        grantId := some grant.id
        kind := .grant
        direction := .credit
        amount := data.amount
        availableDelta := data.amount
        heldDelta := 0
        availableAfter := account.availableBalance
        heldAfter := account.heldBalance
        transactionGroupId := ctx.newId 2
        idempotencyKey := "grant:" ++ data.sourceType ++ ":" ++ data.sourceId
        sourceType := data.sourceType
        sourceId := data.sourceId
        reasonCode := data.reasonCode
        actorId := ctx.actorId } b
      .ok (grant, b)

/-- `expires_at ASC NULLS LAST, granted_at, id`. -/
def grantOrder (g h : CreditGrant) : Bool :=
  let later := g.grantedAt < h.grantedAt ∨ g.grantedAt = h.grantedAt ∧ g.id ≤ h.id
  match g.expiresAt, h.expiresAt with
  | some s, some t => s < t ∨ s = t ∧ later
  | some _, none => true
  | none, some _ => false
  | none, none => later

def spendableGrants (accountId : Uuid) (now : Int) (b : Books) : List CreditGrant :=
  (b.grants.filter fun grant =>
    grant.accountId = accountId && 0 < grant.availableAmount &&
      grant.expiresAt.all (now < ·)).mergeSort grantOrder

/-- The allocation loop: the changed grants, and the allocations to be inserted. -/
def allocateHold (ctx : CallContext) (holdId : Uuid) :
    List CreditGrant → Int → Nat → Books → Books × List CreditHoldAllocation
  | [], _, _, b => (b, [])
  | grant :: grants, remaining, order, b =>
    if remaining = 0 then (b, [])
    else
      let amount := min grant.availableAmount remaining
      let b := updateGrant grant.id (fun row =>
        { row with
          availableAmount := row.availableAmount - amount
          heldAmount := row.heldAmount + amount }) b
      let order := order + 1
      let allocation : CreditHoldAllocation := {
        id := ctx.newId (2 + order)
        holdId := holdId
        grantId := grant.id
        allocationOrder := order
        heldAmount := amount }
      let (b, allocations) := allocateHold ctx holdId grants (remaining - amount) order b
      (b, allocation :: allocations)

def newHold (data : CreditHoldCreate) (requestHash : String) (price : BillingPriceVersion)
    (account : CreditAccount) : CreditHold where
  id := ctx.newId 0
  accountId := account.id
  subjectType := data.subjectType
  subjectId := data.subjectId
  operation := data.operation
  idempotencyKey := data.idempotencyKey
  requestHash := requestHash
  priceVersionId := price.id
  pricingSnapshot := priceSnapshot price
  maximumAmount := data.maximumAmount
  expiresAt := data.expiresAt
  requestedBy := ctx.actorId

/-- `create_hold` from the new hold on, after every check has passed. -/
def placeHold (data : CreditHoldCreate) (requestHash : String) (price : BillingPriceVersion)
    (account : CreditAccount) (grants : List CreditGrant) (b : Books) :
    Except Failure (CreditHold × Books) := do
  let hold := newHold ctx data requestHash price account
  let b ← insertHold hold b
  let allocated := allocateHold ctx hold.id grants data.maximumAmount 0 b
  let after := { account with
    availableBalance := account.availableBalance - data.maximumAmount
    heldBalance := account.heldBalance + data.maximumAmount }
  ensureBalanceTransition account.availableBalance account.heldBalance
    after.availableBalance after.heldBalance
  let b ← insertAllocations allocated.2 { allocated.1 with account := some after }
  let b ← insertEntry {
    id := ctx.newId 1
    accountId := account.id
    holdId := some hold.id
    kind := .hold
    direction := .debit
    amount := data.maximumAmount
    availableDelta := -data.maximumAmount
    heldDelta := data.maximumAmount
    availableAfter := after.availableBalance
    heldAfter := after.heldBalance
    transactionGroupId := ctx.newId 2
    idempotencyKey := "hold:" ++ toString hold.id
    sourceType := data.subjectType
    sourceId := data.subjectId
    reasonCode := "MAX_COST_RESERVATION"
    pricingSnapshot := some hold.pricingSnapshot
    actorId := ctx.actorId } b
  .ok (hold, b)

def createHold (data : CreditHoldCreate) (b : Books) : Except Failure (CreditHold × Books) :=
  if data.expiresAt ≤ ctx.now then
    .error (.app {
      code := "CREDIT_HOLD_EXPIRY_INVALID"
      message := "Hold 만료 시각은 미래여야 합니다."
      statusCode := 422 })
  else
    let requestHash := ctx.canonicalHash data
    match b.holds.find? fun hold =>
        hold.subjectType = data.subjectType ∧ hold.subjectId = data.subjectId ∧
          hold.idempotencyKey = data.idempotencyKey with
    | some existing =>
      if existing.requestHash ≠ requestHash then
        .error (.app {
          code := "IDEMPOTENCY_KEY_REUSED"
          message := "같은 멱등키의 Hold 요청이 다릅니다."
          statusCode := 409 })
      else .ok (existing, b)
    | none => do
      let price ← priceOf ctx data.priceVersionId
      let account ← accountOf b
      if account.availableBalance < data.maximumAmount then
        .error (.app {
          code := "CREDIT_BALANCE_INSUFFICIENT"
          message := "최대 예상 비용을 Hold할 크레딧이 부족합니다."
          statusCode := 402
          remediation := some [("required", .amount data.maximumAmount),
            ("available", .amount account.availableBalance)] })
      else
        let grants := spendableGrants account.id ctx.now b
        if total (·.availableAmount) grants < data.maximumAmount then
          .error (.app {
            code := "CREDIT_BUCKETS_INSUFFICIENT"
            message := "사용 가능한 유효기간별 크레딧 합계가 Hold에 부족합니다."
            statusCode := 409 })
        else placeHold ctx data requestHash price account grants b

def holdOf (holdId : Uuid) (b : Books) : Except Failure CreditHold :=
  match b.holds.find? (·.id = holdId) with
  | some hold => .ok hold
  | none =>
    .error (.app {
      code := "CREDIT_HOLD_NOT_FOUND"
      message := "크레딧 Hold를 찾을 수 없습니다."
      statusCode := 404 })

def allocationsOf (holdId : Uuid) (b : Books) : List CreditHoldAllocation :=
  b.allocations.filter (·.holdId = holdId)

/-- `grants[allocation.grant_id]` in the settlement loops. -/
def grantOf (grantId : Uuid) (b : Books) : Except Failure CreditGrant :=
  match b.grants.find? (·.id = grantId) with
  | some grant => .ok grant
  | none => .error .keyError

/-- The loop of `finalize_hold`; returns what is left of the consumed amount. -/
def consumeAllocations : List CreditHoldAllocation → Int → Books → Except Failure (Int × Books)
  | [], remaining, b => .ok (remaining, b)
  | allocation :: rest, remaining, b => do
    let consumed := min allocation.heldAmount remaining
    let released := allocation.heldAmount - consumed
    let b := updateAllocation allocation.id (fun row =>
      { row with consumedAmount := consumed, releasedAmount := released }) b
    let grant ← grantOf allocation.grantId b
    let b := updateGrant grant.id (fun row =>
      { row with
        heldAmount := row.heldAmount - allocation.heldAmount
        availableAmount := row.availableAmount + released }) b
    consumeAllocations rest (remaining - consumed) b

def finalizeEntries (data : CreditHoldFinalize) (hold : CreditHold) (account : CreditAccount)
    (result : HoldFinalization) : List CreditLedgerEntry :=
  (if 0 < result.consumed then [{
    id := ctx.newId 1
    accountId := account.id
    holdId := some hold.id
    kind := .consume
    direction := .debit
    amount := result.consumed
    availableDelta := 0
    heldDelta := -result.consumed
    availableAfter := account.availableBalance
    heldAfter := account.heldBalance
    transactionGroupId := ctx.newId 0
    idempotencyKey := "finalize:" ++ data.finalizationEventId ++ ":consume"
    sourceType := hold.subjectType
    sourceId := hold.subjectId
    reasonCode := data.reasonCode.getD "ACTUAL_COST"
    pricingSnapshot := some hold.pricingSnapshot
    actorId := ctx.actorId }] else []) ++
  (if 0 < result.released then [{
    id := ctx.newId 2
    accountId := account.id
    holdId := some hold.id
    kind := .release
    direction := .credit
    amount := result.released
    availableDelta := result.released
    heldDelta := -result.released
    availableAfter := account.availableBalance
    heldAfter := account.heldBalance
    transactionGroupId := ctx.newId 0
    idempotencyKey := "finalize:" ++ data.finalizationEventId ++ ":release"
    sourceType := hold.subjectType
    sourceId := hold.subjectId
    reasonCode := "MAX_COST_DIFFERENCE"
    pricingSnapshot := some hold.pricingSnapshot
    actorId := ctx.actorId }] else [])

def insertEntries : List CreditLedgerEntry → Books → Except Failure Books
  | [], b => .ok b
  | entry :: rest, b => do insertEntries rest (← insertEntry entry b)

/-- `finalize_hold` from the account lock on, for a hold that is not a replay. -/
def settleHold (data : CreditHoldFinalize) (hold : CreditHold) (result : HoldFinalization)
    (b : Books) : Except Failure (CreditHold × Books) := do
  let account ← accountOf b
  let allocations := (allocationsOf hold.id b).mergeSort fun a c => a.allocationOrder ≤ c.allocationOrder
  let (remaining, b) ← consumeAllocations allocations result.consumed b
  if remaining ≠ 0 then
    .error (.app {
      code := "CREDIT_ALLOCATION_CORRUPT"
      message := "Hold 배부 합계가 실제 비용과 일치하지 않습니다."
      statusCode := 500 })
  else
    let after := { account with
      heldBalance := account.heldBalance - hold.maximumAmount
      availableBalance := account.availableBalance + result.released }
    ensureBalanceTransition account.availableBalance account.heldBalance
      after.availableBalance after.heldBalance
    let settled := { hold with
      actualAmount := some result.consumed
      releasedAmount := some result.released
      finalizationEventId := some data.finalizationEventId
      failureClass := data.failureClass
      state := .finalized
      finalizedAt := some ctx.now }
    let b ← updateHold settled { b with account := some after }
    let b ← insertEntries (finalizeEntries ctx data hold after result) b
    .ok (settled, b)

def finalizeHold (holdId : Uuid) (data : CreditHoldFinalize) (b : Books) :
    Except Failure (CreditHold × Books) := do
  let hold ← holdOf holdId b
  let result ← finalizeHoldAmounts hold.state hold.maximumAmount data.actualAmount hold.actualAmount
  if result.replay then
    if hold.finalizationEventId ≠ some data.finalizationEventId ∨
        hold.failureClass ≠ data.failureClass then
      .error (.app {
        code := "CREDIT_HOLD_FINALIZATION_CONFLICT"
        message := "이미 다른 완료 이벤트 또는 실패 분류로 확정된 Hold입니다."
        statusCode := 409 })
    else .ok (hold, b)
  else settleHold ctx data hold result b

/-- The loop of `release_hold`. -/
def releaseAllocations : List CreditHoldAllocation → Books → Except Failure Books
  | [], b => .ok b
  | allocation :: rest, b => do
    let b := updateAllocation allocation.id (fun row =>
      { row with releasedAmount := allocation.heldAmount }) b
    let grant ← grantOf allocation.grantId b
    let b := updateGrant grant.id (fun row =>
      { row with
        heldAmount := row.heldAmount - allocation.heldAmount
        availableAmount := row.availableAmount + allocation.heldAmount }) b
    releaseAllocations rest b

/-- `release_hold` from the account lock on, for an active hold. -/
def freeHold (data : CreditHoldRelease) (hold : CreditHold) (b : Books) :
    Except Failure (CreditHold × Books) := do
  let account ← accountOf b
  let b ← releaseAllocations (allocationsOf hold.id b) b
  let after := { account with
    heldBalance := account.heldBalance - hold.maximumAmount
    availableBalance := account.availableBalance + hold.maximumAmount }
  ensureBalanceTransition (after.availableBalance - hold.maximumAmount)
    (after.heldBalance + hold.maximumAmount) after.availableBalance after.heldBalance
  let freed := { hold with
    actualAmount := some 0
    releasedAmount := some hold.maximumAmount
    finalizationEventId := some data.releaseEventId
    failureClass := some data.failureClass
    state := .released
    finalizedAt := some ctx.now }
  let b ← updateHold freed { b with account := some after }
  let b ← insertEntry {
    id := ctx.newId 1
    accountId := account.id
    holdId := some hold.id
    kind := .release
    direction := .credit
    amount := hold.maximumAmount
    availableDelta := hold.maximumAmount
    heldDelta := -hold.maximumAmount
    availableAfter := after.availableBalance
    heldAfter := after.heldBalance
    transactionGroupId := ctx.newId 0
    idempotencyKey := "release:" ++ data.releaseEventId
    sourceType := hold.subjectType
    sourceId := hold.subjectId
    reasonCode := data.reasonCode
    pricingSnapshot := some hold.pricingSnapshot
    actorId := ctx.actorId } b
  .ok (freed, b)

def releaseHold (holdId : Uuid) (data : CreditHoldRelease) (b : Books) :
    Except Failure (CreditHold × Books) := do
  let hold ← holdOf holdId b
  match hold.state with
  | .released =>
    if hold.finalizationEventId ≠ some data.releaseEventId ∨
        hold.failureClass ≠ some data.failureClass then
      .error (.app {
        code := "CREDIT_HOLD_RELEASE_CONFLICT"
        message := "이미 다른 이벤트로 해제된 Hold입니다."
        statusCode := 409 })
    else .ok (hold, b)
  | .finalized =>
    .error (.app {
      code := "CREDIT_HOLD_NOT_ACTIVE"
      message := "활성 Hold만 실패 해제할 수 있습니다."
      statusCode := 409 })
  | .held => freeHold ctx data hold b

def entryOf (entryId : Uuid) (b : Books) : Except Failure CreditLedgerEntry :=
  match b.entries.find? (·.id = entryId) with
  | some entry => .ok entry
  | none =>
    .error (.app {
      code := "CREDIT_ENTRY_NOT_FOUND"
      message := "크레딧 원장 항목을 찾을 수 없습니다."
      statusCode := 404 })

def reversible (entry : CreditLedgerEntry) : Bool :=
  (entry.kind = .consume || entry.kind = .expire || entry.kind = .reclaim) && entry.direction = .debit

def reverseCreditDebit (data : CreditReversal) (b : Books) : Except Failure (CreditLedgerEntry × Books) := do
  let original ← entryOf data.entryId b
  match b.entries.find? (·.reversalOfId = some original.id) with
  | some existing =>
    if existing.idempotencyKey ≠ data.idempotencyKey then
      .error (.app {
        code := "CREDIT_ENTRY_ALREADY_REVERSED"
        message := "이미 역분개된 원장 항목입니다."
        statusCode := 409 })
    else .ok (existing, b)
  | none =>
    if !reversible original then
      .error (.app {
        code := "CREDIT_ENTRY_NOT_REVERSIBLE"
        message := "확정 소비·만료·회수 Debit만 역분개할 수 있습니다."
        statusCode := 409 })
    else
      let account ← accountOf b
      if data.expiresAt.any (· ≤ ctx.now) then
        .error (.app {
          code := "CREDIT_REVERSAL_POLICY_INVALID"
          message := "역분개 크레딧 만료 정책은 미래 시각이어야 합니다."
          statusCode := 422 })
      else
        let grant : CreditGrant := {
          id := ctx.newId 0
          accountId := account.id
          bucketKind := data.bucketKind
          originalAmount := original.amount
          availableAmount := original.amount
          heldAmount := 0
          sourceType := "LEDGER_REVERSAL"
          sourceId := toString original.id
          grantedAt := ctx.now
          expiresAt := data.expiresAt }
        let account := { account with
          availableBalance := account.availableBalance + original.amount }
        let b ← insertGrant grant { b with account := some account }
        let reversal : CreditLedgerEntry := {
          id := ctx.newId 1
          accountId := account.id
          grantId := some grant.id
          kind := .reversal
          direction := .credit
          amount := original.amount
          availableDelta := original.amount
          heldDelta := 0
          availableAfter := account.availableBalance
          heldAfter := account.heldBalance
          transactionGroupId := original.transactionGroupId
          reversalOfId := some original.id
          idempotencyKey := data.idempotencyKey
          sourceType := "LEDGER_REVERSAL"
          sourceId := toString original.id
          reasonCode := data.reasonCode
          pricingSnapshot := original.pricingSnapshot
          actorId := ctx.actorId }
        let b ← insertEntry reversal b
        .ok (reversal, b)

inductive CreditCall where
  | createCreditAccount
  | grantCredits (data : CreditGrantCreate)
  | createHold (data : CreditHoldCreate)
  | finalizeHold (holdId : Uuid) (data : CreditHoldFinalize)
  | releaseHold (holdId : Uuid) (data : CreditHoldRelease)
  | reverseCreditDebit (data : CreditReversal)

def perform (b : Books) : CreditCall → Except Failure Books
  | .createCreditAccount => (createCreditAccount ctx b).map Prod.snd
  | .grantCredits data => (grantCredits ctx data b).map Prod.snd
  | .createHold data => (createHold ctx data b).map Prod.snd
  | .finalizeHold holdId data => (finalizeHold ctx holdId data b).map Prod.snd
  | .releaseHold holdId data => (releaseHold ctx holdId data b).map Prod.snd
  | .reverseCreditDebit data => (reverseCreditDebit ctx data b).map Prod.snd

/-- One transaction: a call that raises is rolled back. -/
def transact (b : Books) (call : CallContext × CreditCall) : Books :=
  match perform call.1 b call.2 with
  | .ok after => after
  | .error _ => b

/-- No rows yet, and the account absent or at zero. -/
def emptyBooks (b : Books) : Prop :=
  b.grants = [] ∧ b.holds = [] ∧ b.allocations = [] ∧ b.entries = [] ∧
    ∀ account, b.account = some account → account.availableBalance = 0 ∧ account.heldBalance = 0

end BlogOps.Billing
