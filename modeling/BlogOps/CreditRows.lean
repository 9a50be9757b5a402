import BlogOps.AppErrors
import BlogOps.KeyedTables

/-!
# Billing rows of one workspace

The credit account, its grants, holds, allocations and ledger entries, the
requests that the schemas let through, and the pure rules the service calls.
Amounts are integers in units of `0.000001`, the scale of the `Numeric(19, 6)`
columns.
-/

namespace BlogOps.Billing

open KeyedTables

inductive CreditBucketKind where
  | monthly | purchased | promotional | agencyAllocation | adminAdjustment
deriving DecidableEq, Repr

inductive LedgerDirection where
  | debit | credit
deriving DecidableEq, Repr

inductive CreditEntryKind where
  | grant | hold | consume | release | expire | reclaim | adjustment | reversal
deriving DecidableEq, Repr

inductive CreditHoldState where
  | held | finalized | released
deriving DecidableEq, Repr

inductive PricingVersionState where
  | draft | active | retired
deriving DecidableEq, Repr

structure BillingPriceVersion where
  id : Uuid
  workspaceId : Option Uuid
  metricKey : String
  vendor : String
  vendorSku : String
  version : Nat
  state : PricingVersionState
  unitName : String
  unitSize : Int
  creditUnitPrice : Int
  internalUnitCost : Int
  costCurrency : String
  rounding : Option String
  pricingHash : String
  effectiveAt : Int
  retiredAt : Option Int
deriving DecidableEq, Repr

structure PriceSnapshot where
  priceVersionId : Uuid
  metricKey : String
  vendor : String
  vendorSku : String
  version : Nat
  unitName : String
  unitSize : Int
  creditUnitPrice : Int
  internalUnitCost : Int
  costCurrency : String
  pricingHash : String
  rounding : Option String
deriving DecidableEq, Repr

structure CreditAccount where
  id : Uuid
  availableBalance : Int := 0
  heldBalance : Int := 0
deriving DecidableEq, Repr

structure CreditGrant where
  id : Uuid
  accountId : Uuid
  bucketKind : CreditBucketKind
  originalAmount : Int
  availableAmount : Int
  heldAmount : Int := 0
  sourceType : String
  sourceId : String
  grantedAt : Int
  expiresAt : Option Int
deriving DecidableEq, Repr

structure CreditHold where
  id : Uuid
  accountId : Uuid
  subjectType : String
  subjectId : String
  operation : String
  idempotencyKey : String
  requestHash : String
  priceVersionId : Uuid
  pricingSnapshot : PriceSnapshot
  maximumAmount : Int
  actualAmount : Option Int := none
  releasedAmount : Option Int := none
  state : CreditHoldState := .held
  finalizationEventId : Option String := none
  failureClass : Option String := none
  expiresAt : Int
  finalizedAt : Option Int := none
  requestedBy : Uuid
deriving DecidableEq, Repr

structure CreditHoldAllocation where
  id : Uuid
  holdId : Uuid
  grantId : Uuid
  allocationOrder : Nat
  heldAmount : Int
  consumedAmount : Int := 0
  releasedAmount : Int := 0
deriving DecidableEq, Repr

structure CreditLedgerEntry where
  id : Uuid
  accountId : Uuid
  grantId : Option Uuid := none
  holdId : Option Uuid := none
  kind : CreditEntryKind
  direction : LedgerDirection
  amount : Int
  availableDelta : Int
  heldDelta : Int
  availableAfter : Int
  heldAfter : Int
  transactionGroupId : Uuid
  reversalOfId : Option Uuid := none
  idempotencyKey : String
  sourceType : String
  sourceId : String
  reasonCode : String
  pricingSnapshot : Option PriceSnapshot := none
  actorId : Uuid
deriving DecidableEq, Repr

structure Books where
  account : Option CreditAccount := none
  grants : List CreditGrant := []
  holds : List CreditHold := []
  allocations : List CreditHoldAllocation := []
  entries : List CreditLedgerEntry := []
deriving DecidableEq, Repr

structure CreditGrantCreate where
  bucketKind : CreditBucketKind
  amount : Int
  amount_pos : 0 < amount
  sourceType : String
  sourceId : String
  expiresAt : Option Int
  reasonCode : String

structure CreditHoldCreate where
  subjectType : String
  subjectId : String
  operation : String
  priceVersionId : Uuid
  maximumAmount : Int
  maximumAmount_pos : 0 < maximumAmount
  idempotencyKey : String
  expiresAt : Int

structure CreditHoldFinalize where
  finalizationEventId : String
  actualAmount : Int
  actualAmount_nonneg : 0 ≤ actualAmount
  failureClass : Option String
  reasonCode : Option String
  reason_pair : failureClass.isNone = reasonCode.isNone

structure CreditHoldRelease where
  releaseEventId : String
  failureClass : String
  reasonCode : String

structure CreditReversal where
  entryId : Uuid
  idempotencyKey : String
  reasonCode : String
  bucketKind : CreditBucketKind
  expiresAt : Option Int

def requirePositiveAmount (value : Int) (field : String) : Except Failure Unit :=
  if value ≤ 0 then
    .error (.app {
      code := "BILLING_AMOUNT_INVALID"
      message := "금액과 크레딧 수량은 0보다 큰 유한값이어야 합니다."
      statusCode := 422
      fields := [⟨field, "positive finite value required"⟩] })
  else .ok ()

def requireNonnegativeAmount (value : Int) (field : String) : Except Failure Unit :=
  if value < 0 then
    .error (.app {
      code := "BILLING_AMOUNT_INVALID"
      message := "금액과 크레딧 수량은 음수가 아닌 유한값이어야 합니다."
      statusCode := 422
      fields := [⟨field, "non-negative finite value required"⟩] })
  else .ok ()

structure HoldFinalization where
  consumed : Int
  released : Int
  replay : Bool
deriving DecidableEq, Repr

def finalizeHoldAmounts (state : CreditHoldState) (maximumAmount actualAmount : Int)
    (finalizedAmount : Option Int) : Except Failure HoldFinalization := do
  requirePositiveAmount maximumAmount "maximum_amount"
  requireNonnegativeAmount actualAmount "actual_amount"
  match state with
  | .finalized =>
    if finalizedAmount = some actualAmount then
      .ok ⟨actualAmount, maximumAmount - actualAmount, true⟩
    else
      .error (.app {
        code := "CREDIT_HOLD_ALREADY_FINALIZED"
        message := "이미 확정된 Hold에 다른 실제 비용을 적용할 수 없습니다."
        statusCode := 409 })
  | .released =>
    .error (.app {
      code := "CREDIT_HOLD_NOT_ACTIVE"
      message := "활성 Hold만 확정할 수 있습니다."
      statusCode := 409 })
  | .held =>
    if maximumAmount < actualAmount then
      .error (.app {
        code := "CREDIT_HOLD_MAXIMUM_EXCEEDED"
        message := "실제 비용이 사전에 승인된 최대 Hold를 초과했습니다."
        statusCode := 409
        remediation := some [("action", .text "request_additional_budget")] })
    else .ok ⟨actualAmount, maximumAmount - actualAmount, false⟩

def ensureBalanceTransition (availableBefore heldBefore availableAfter heldAfter : Int) :
    Except Failure Unit := do
  requireNonnegativeAmount availableBefore "available_before"
  requireNonnegativeAmount heldBefore "held_before"
  requireNonnegativeAmount availableAfter "available_after"
  requireNonnegativeAmount heldAfter "held_after"

def pricingIsEffective (state : PricingVersionState) (effectiveAt : Int)
    (retiredAt : Option Int) (at_ : Int) : Bool :=
  state = .active && effectiveAt ≤ at_ && retiredAt.all (at_ < ·)

/-! ## Writes

A write is checked where the database checks it: primary keys, unique
constraints, the range of `Numeric(19, 6)` and the width of the key column.
The `CHECK` constraints are left out; the conservation results imply them. -/

def numericFits (value : Int) : Bool := value.natAbs < 10 ^ 19

def insertGrant (grant : CreditGrant) (b : Books) : Except Failure Books :=
  if b.grants.any (·.id = grant.id) then .error (.integrity "pk_billing_credit_grants")
  else if b.grants.any fun other =>
      other.sourceType = grant.sourceType ∧ other.sourceId = grant.sourceId then
    .error (.integrity "billing_credit_grant_source")
  else if !numericFits grant.originalAmount then .error (.integrity "numeric")
  else .ok { b with grants := b.grants ++ [grant] }

def insertHold (hold : CreditHold) (b : Books) : Except Failure Books :=
  if b.holds.any (·.id = hold.id) then .error (.integrity "pk_billing_credit_holds")
  else if b.holds.any fun other =>
      other.subjectType = hold.subjectType ∧ other.subjectId = hold.subjectId ∧
        other.idempotencyKey = hold.idempotencyKey then
    .error (.integrity "billing_credit_hold_idempotency")
  else if !numericFits hold.maximumAmount then .error (.integrity "numeric")
  else .ok { b with holds := b.holds ++ [hold] }

def insertAllocations : List CreditHoldAllocation → Books → Except Failure Books
  | [], b => .ok b
  | allocation :: rest, b =>
    if b.allocations.any (·.id = allocation.id) then
      .error (.integrity "pk_billing_credit_hold_allocations")
    else if b.allocations.any fun other =>
        other.holdId = allocation.holdId ∧ other.grantId = allocation.grantId then
      .error (.integrity "billing_credit_allocation_grant")
    else insertAllocations rest { b with allocations := b.allocations ++ [allocation] }

def insertEntry (entry : CreditLedgerEntry) (b : Books) : Except Failure Books :=
  if b.entries.any (·.id = entry.id) then .error (.integrity "pk_billing_credit_ledger")
  else if b.entries.any (·.idempotencyKey = entry.idempotencyKey) then
    .error (.integrity "billing_credit_entry_idempotency")
  else if entry.reversalOfId.isSome ∧ b.entries.any (·.reversalOfId = entry.reversalOfId) then
    .error (.integrity "billing_credit_reversal_once")
  else if 255 < entry.idempotencyKey.length then .error (.integrity "varchar")
  else if !(numericFits entry.availableAfter && numericFits entry.heldAfter) then
    .error (.integrity "numeric")
  else .ok { b with entries := b.entries ++ [entry] }

def updateGrant (id : Uuid) (f : CreditGrant → CreditGrant) (b : Books) : Books :=
  { b with grants := updateRow (·.id) id f b.grants }

def updateAllocation (id : Uuid) (f : CreditHoldAllocation → CreditHoldAllocation) (b : Books) : Books :=
  { b with allocations := updateRow (·.id) id f b.allocations }

/-- Flushes a changed hold; `billing_credit_finalize_once` is checked here. -/
def updateHold (hold : CreditHold) (b : Books) : Except Failure Books :=
  if hold.finalizationEventId.isSome ∧ b.holds.any fun other =>
      other.id ≠ hold.id ∧ other.finalizationEventId = hold.finalizationEventId then
    .error (.integrity "billing_credit_finalize_once")
  else .ok { b with holds := updateRow (·.id) hold.id (fun _ => hold) b.holds }

end BlogOps.Billing
