import BlogOps.CreditOperations
import BlogOps.PricingRules

/-!
# Budget authorization

`DatabaseBudgetAuthorizationResolver.authorize`: the conversion of a job's
maximum cost into the credits to hold, from the subscription of the workspace,
its pinned plan and entitlement rows and the price version the plan names.
Times are microseconds.
-/

namespace BlogOps.Billing

inductive SubscriptionState where
  | pendingProvider | trialing | active | pastDue | gracePeriod | cancellationScheduled
  | cancelled | suspended
deriving DecidableEq, Repr

def SubscriptionState.value : SubscriptionState → String
  | pendingProvider => "PENDING_PROVIDER"
  | trialing => "TRIALING"
  | active => "ACTIVE"
  | pastDue => "PAST_DUE"
  | gracePeriod => "GRACE_PERIOD"
  | cancellationScheduled => "CANCELLATION_SCHEDULED"
  | cancelled => "CANCELLED"
  | suspended => "SUSPENDED"

def budgetCapableSubscriptionStates : List String :=
  [SubscriptionState.active.value, SubscriptionState.cancellationScheduled.value,
    SubscriptionState.trialing.value]

/-- A value of a JSON policy column. -/
inductive PolicyValue where
  | null
  | bool (value : Bool)
  | int (value : Int)
  | number (literal : String)
  | text (value : String)
  | list (items : List PolicyValue)
  | object (fields : List (String × PolicyValue))

abbrev PolicyFields := List (String × PolicyValue)

/-- `fields.get(key)`. -/
def PolicyFields.get (fields : PolicyFields) (key : String) : PolicyValue :=
  (List.lookup key fields).getD .null

/-- A `Decimal`; `special` is an infinity or a NaN. -/
inductive DecimalValue where
  | finite (value : ℚ)
  | special
deriving DecidableEq, Repr

/-- How policy values are read and decimals written: `Decimal(str(value))` and
`UUID(str(value))`, `none` where they raise, and `str` of a decimal. -/
structure PolicyReaders where
  decimal : PolicyValue → Option DecimalValue
  uuid : PolicyValue → Option Uuid
  decimalText : ℚ → String

structure BillingSubscription where
  planVersionId : Uuid
  state : SubscriptionState
  currentPeriodStart : Option Int
  currentPeriodEnd : Option Int
  trialStartedAt : Option Int
  trialEndsAt : Option Int
  entitlementSnapshotId : Option Uuid

structure BillingPlanVersion where
  id : Uuid
  workspaceId : Option Uuid
  state : PricingVersionState
  creditPolicy : PolicyFields
  policyHash : String
  effectiveAt : Int
  retiredAt : Option Int

structure EntitlementSnapshot where
  id : Uuid
  planVersionId : Uuid
  entitlements : PolicyFields
  snapshotHash : String
  validFrom : Int
  validUntil : Option Int

/-- The policy rows a workspace sees; its price versions are part of the call context. -/
structure BudgetPolicyRows where
  subscription : Option BillingSubscription
  plans : List BillingPlanVersion
  entitlements : List EntitlementSnapshot

/-- The arguments of `_reserve`; `authorize` reads the operation, the costs and the currency. -/
structure BudgetRequest where
  operationKind : String
  subjectType : String
  subjectId : String
  idempotencyKey : String
  estimatedCost : DecimalValue
  requestedMaximumCost : Option DecimalValue
  currency : String

structure BillingEvidence where
  entitlementSnapshotId : Uuid
  snapshotHash : String
  planVersionId : Uuid
deriving DecidableEq, Repr

structure BudgetPolicySnapshot where
  schemaVersion : Int
  operationKind : String
  planVersionId : Uuid
  planPolicyHash : String
  priceVersionId : Uuid
  pricingHash : String
  metricKey : String
  authorizedCost : ℚ
  authorizedCeiling : ℚ
  currency : String
  holdTtlSeconds : Int
deriving DecidableEq, Repr

/-- Server-side, versioned conversion from provider cost to customer credits. -/
structure BudgetAuthorization where
  priceVersionId : Uuid
  maximumCreditAmount : Int
  authorizedCost : ℚ
  currency : String
  holdExpiresAt : Int
  entitlements : PolicyFields
  billingEvidence : BillingEvidence
  policySnapshot : BudgetPolicySnapshot

def budgetConfigurationError (path reason : String) : Failure := .app {
    code := "BILLING_BUDGET_POLICY_UNAVAILABLE"
    message := "가격표·최대 비용·Entitlement 변환 정책이 완전하지 않습니다."
    statusCode := 503
    fields := [⟨path, reason⟩] }

def requiredMapping (value : PolicyValue) (path : String) : Except Failure PolicyFields :=
  match value with
  | .object fields => .ok fields
  | _ => .error (budgetConfigurationError path "object required")

variable (readers : PolicyReaders)

def requiredPositiveDecimal (value : PolicyValue) (path : String) : Except Failure ℚ :=
  match value with
  | .bool _ => .error (budgetConfigurationError path "positive decimal required")
  | value =>
    match readers.decimal value with
    | none => .error (budgetConfigurationError path "positive decimal required")
    | some .special =>
      .error (budgetConfigurationError path "positive finite decimal required")
    | some (.finite result) =>
      if result ≤ 0 then
        .error (budgetConfigurationError path "positive finite decimal required")
      else .ok result

def requiredUuid (value : PolicyValue) (path : String) : Except Failure Uuid :=
  match readers.uuid value with
  | some id => .ok id
  | none => .error (budgetConfigurationError path "UUID required")

def maxHoldTtlSeconds : Int := 7 * 24 * 60 * 60

def requiredHoldTtl (value : PolicyValue) : Except Failure Int :=
  match value with
  | .int seconds =>
    if seconds ≤ 0 ∨ maxHoldTtlSeconds < seconds then
      .error (budgetConfigurationError "credit_policy.job_budget_authorization.hold_ttl_seconds"
        ("must be between 1 and " ++ toString maxHoldTtlSeconds))
    else .ok seconds
  | _ =>
    .error (budgetConfigurationError "credit_policy.job_budget_authorization.hold_ttl_seconds"
      "integer required")

/-- `currency` is its own `strip().upper()`, three ASCII letters long. -/
def validCurrency (currency : String) : Bool := currency.length = 3 && currency.toList.all Char.isUpper

/-- The maximum asked for, once both costs are positive and finite and in order. -/
def requestedMaximum (request : BudgetRequest) : Except Failure ℚ :=
  match request.estimatedCost, request.requestedMaximumCost with
  | .finite estimated, some (.finite maximum) =>
    if estimated ≤ 0 ∨ maximum ≤ 0 ∨ maximum < estimated then .error refused
    else .ok maximum
  | _, _ => .error refused
where
  refused : Failure := .app {
    code := "BILLING_BUDGET_REQUEST_INVALID"
    message := "예상 비용과 최대 비용은 양수이며 예상 비용은 최대 비용 이하여야 합니다."
    statusCode := 422 }

def validateRequest (request : BudgetRequest) : Except Failure ℚ := do
  let maximumCost ← requestedMaximum request
  require (validCurrency request.currency) (.app {
    code := "BILLING_COST_CURRENCY_INVALID"
    message := "비용 통화는 대문자 ISO 4217 코드여야 합니다."
    statusCode := 422 })
  .ok maximumCost

def subscriptionDeadline (subscription : BillingSubscription) (now : Int) : Except Failure Int :=
  let period :=
    if subscription.state = .trialing then
      (subscription.trialStartedAt, subscription.trialEndsAt)
    else (subscription.currentPeriodStart, subscription.currentPeriodEnd)
  match period with
  | (some startsAt, some endsAt) =>
    if startsAt ≤ now ∧ now < endsAt then .ok endsAt else .error inactive
  | _ => .error inactive
where
  inactive : Failure := .app {
    code := "BILLING_SUBSCRIPTION_PERIOD_INACTIVE"
    message := "현재 유효한 구독 또는 체험 기간이 없어 작업 비용을 승인할 수 없습니다."
    statusCode := 402 }

def PolicyValue.text? : PolicyValue → Option String
  | .text value => some value
  | _ => none

/-- A non-empty list of texts among the budget-capable states. -/
def allowedSubscriptionStates (value : PolicyValue) : Except Failure (List String) :=
  match value with
  | .list items =>
    let states := items.filterMap PolicyValue.text?
    if items ≠ [] ∧ states.length = items.length ∧
        states.all (· ∈ budgetCapableSubscriptionStates) then .ok states
    else .error unsafeStates
  | _ => .error unsafeStates
where
  unsafeStates : Failure :=
    budgetConfigurationError "credit_policy.job_budget_authorization.allowed_subscription_states"
      "non-empty safe subscription-state list required"

structure OperationPolicy where
  operation : PolicyFields
  entitlementOperation : PolicyFields
  holdTtl : Int
  allowedStates : List String

def operationPolicy (plan : BillingPlanVersion) (entitlement : EntitlementSnapshot)
    (operationKind currency : String) : Except Failure OperationPolicy := do
  let rootPath := "credit_policy.job_budget_authorization"
  let root ← requiredMapping (plan.creditPolicy.get "job_budget_authorization") rootPath
  require (root.get "schema_version" matches .int 1)
    (budgetConfigurationError (rootPath ++ ".schema_version") "must equal 1")
  let states ← allowedSubscriptionStates (root.get "allowed_subscription_states")
  let operations ← requiredMapping (root.get "operations") (rootPath ++ ".operations")
  let operation ← requiredMapping (operations.get operationKind) (rootPath ++ ".operations." ++ operationKind)
  let entitlementPath := "entitlements.job_budget_operations." ++ operationKind
  let entitled ← requiredMapping (entitlement.entitlements.get "job_budget_operations")
    "entitlements.job_budget_operations"
  let entitlementOperation ← requiredMapping (entitled.get operationKind) entitlementPath
  require (operation.get "enabled" matches .bool true) (.app {
    code := "BILLING_OPERATION_DISABLED"
    message := "현재 요금제 정책에서 요청한 작업이 비활성화되어 있습니다."
    statusCode := 403 })
  require (entitlementOperation.get "enabled" matches .bool true) (.app {
    code := "BILLING_OPERATION_NOT_ENTITLED"
    message := "현재 Entitlement에서 요청한 작업을 사용할 수 없습니다."
    statusCode := 403 })
  require ((operation.get "currency").text? = some currency)
    (budgetConfigurationError (rootPath ++ ".operations." ++ operationKind ++ ".currency")
      ("must equal " ++ currency))
  require ((entitlementOperation.get "currency").text? = some currency)
    (budgetConfigurationError (entitlementPath ++ ".currency") ("must equal " ++ currency))
  let holdTtl ← requiredHoldTtl (root.get "hold_ttl_seconds")
  .ok ⟨operation, entitlementOperation, holdTtl, states⟩

variable (rows : BudgetPolicyRows)

def subscriptionOf : Except Failure BillingSubscription :=
  match rows.subscription with
  | some subscription => .ok subscription
  | none =>
    .error (.app {
      code := "BILLING_SUBSCRIPTION_REQUIRED"
      message := "활성 구독이 없어 작업 비용을 승인할 수 없습니다."
      statusCode := 402 })

def budgetPlan (ctx : CallContext) (now : Int) (subscription : BillingSubscription) :
    Except Failure BillingPlanVersion :=
  match rows.plans.find? (·.id = subscription.planVersionId) with
  | none => .error notVisible
  | some plan =>
    if plan.workspaceId.any (· ≠ ctx.workspaceId) then .error notVisible
    else if !pricingIsEffective plan.state plan.effectiveAt plan.retiredAt now then
      .error (.app {
        code := "BILLING_PLAN_VERSION_INACTIVE"
        message := "현재 유효한 요금제 버전이 없어 작업 비용을 승인할 수 없습니다."
        statusCode := 402 })
    else .ok plan
where
  notVisible : Failure := budgetConfigurationError "subscription.plan_version_id"
      "workspace-visible plan version required"

def budgetEntitlement (now : Int) (subscription : BillingSubscription) (plan : BillingPlanVersion) :
    Except Failure EntitlementSnapshot :=
  match subscription.entitlementSnapshotId with
  | none =>
    .error (budgetConfigurationError "subscription.entitlement_snapshot_id"
      "pinned entitlement snapshot required")
  | some snapshotId =>
    match rows.entitlements.find? (·.id = snapshotId) with
    | none => .error notMatching
    | some entitlement =>
      if entitlement.planVersionId ≠ plan.id then .error notMatching
      else if now < entitlement.validFrom ∨ entitlement.validUntil.any (· ≤ now) then
        .error (.app {
          code := "BILLING_ENTITLEMENT_INACTIVE"
          message := "현재 유효한 Entitlement Snapshot이 없습니다."
          statusCode := 403 })
      else .ok entitlement
where
  notMatching : Failure := budgetConfigurationError "subscription.entitlement_snapshot_id"
      "matching plan entitlement snapshot required"

/-- The smaller of the two policy maxima, once it covers the maximum asked for. -/
def authorizedCeiling (policy : OperationPolicy) (request : BudgetRequest) (maximumCost : ℚ) :
    Except Failure ℚ := do
  let planMaximum ← requiredPositiveDecimal readers (policy.operation.get "maximum_cost")
    ("credit_policy.job_budget_authorization.operations." ++ request.operationKind ++ ".maximum_cost")
  let entitlementMaximum ← requiredPositiveDecimal readers (policy.entitlementOperation.get "maximum_cost")
    ("entitlements.job_budget_operations." ++ request.operationKind ++ ".maximum_cost")
  let ceiling := min planMaximum entitlementMaximum
  require (maximumCost ≤ ceiling) (.app {
    code := "BILLING_MAXIMUM_COST_NOT_AUTHORIZED"
    message := "요청한 최대 비용이 요금제 또는 Entitlement 한도를 초과합니다."
    statusCode := 402
    remediation := some [ ("requested_maximum_cost", .text (readers.decimalText maximumCost)),
      ("authorized_ceiling", .text (readers.decimalText ceiling)),
      ("currency", .text request.currency)] })
  .ok ceiling

def visiblePrice (ctx : CallContext) (priceVersionId : Uuid) : Except Failure BillingPriceVersion :=
  match ctx.prices.find? (·.id = priceVersionId) with
  | none => .error notVisible
  | some price =>
    if price.workspaceId.any (· ≠ ctx.workspaceId) then .error notVisible else .ok price
where
  notVisible : Failure := budgetConfigurationError
      "credit_policy.job_budget_authorization.operations.price_version_id"
      "workspace-visible price version required"

def budgetPrice (ctx : CallContext) (now : Int) (operation : PolicyFields) (request : BudgetRequest) :
    Except Failure BillingPriceVersion := do
  let priceVersionId ← requiredUuid readers (operation.get "price_version_id")
    ("credit_policy.job_budget_authorization.operations." ++ request.operationKind ++ ".price_version_id")
  let price ← visiblePrice ctx priceVersionId
  require (pricingIsEffective price.state price.effectiveAt price.retiredAt now) (.app {
    code := "PRICING_VERSION_INACTIVE"
    message := "현재 유효한 정확한 가격표 버전이 필요합니다."
    statusCode := 409 })
  require ((operation.get "metric_key").text? = some price.metricKey)
    (budgetConfigurationError "credit_policy.job_budget_authorization.operations.metric_key"
      "must match the pinned price metric")
  require (price.costCurrency = request.currency)
    (budgetConfigurationError "billing_price_versions.cost_currency" ("must equal " ++ request.currency))
  require (0 < price.creditUnitPrice)
    (budgetConfigurationError "billing_price_versions.credit_unit_price"
      "positive credit price required for a hold")
  .ok price

/-- `authorize` up to the lookup of the credit account. -/
def authorizeCosts (ctx : CallContext) (now : Int) (request : BudgetRequest) :
    Except Failure BudgetAuthorization := do
  let maximumCost ← validateRequest request
  let subscription ← subscriptionOf rows
  let plan ← budgetPlan rows ctx now subscription
  let entitlement ← budgetEntitlement rows now subscription plan
  let policy ← operationPolicy plan entitlement request.operationKind request.currency
  require (subscription.state.value ∈ policy.allowedStates) (.app {
    code := "BILLING_SUBSCRIPTION_INACTIVE"
    message := "현재 구독 상태에서는 작업 비용을 승인할 수 없습니다."
    statusCode := 402 })
  let deadline ← subscriptionDeadline subscription now
  let ceiling ← authorizedCeiling readers policy request maximumCost
  let price ← budgetPrice readers ctx now policy.operation request
  let maximumCreditAmount ← priceCreditAmount price maximumCost
  -- `_MAX_LEDGER_AMOUNT` is 10 ^ 13 credits
  require (0 < maximumCreditAmount ∧ maximumCreditAmount < 10 ^ 19)
    (budgetConfigurationError "billing_price_versions"
      "price conversion must produce positive finite credits")
  let holdExpiresAt := now + policy.holdTtl * 10 ^ 6
  require (∀ limit ∈ deadline :: [plan.retiredAt, price.retiredAt,
      entitlement.validUntil].reduceOption, holdExpiresAt ≤ limit) (.app {
    code := "BILLING_BUDGET_VALIDITY_TOO_SHORT"
    message := "가격표·구독·Entitlement 유효기간이 Hold 정책 기간보다 짧습니다."
    statusCode := 409 })
  .ok {
    priceVersionId := price.id
    maximumCreditAmount := maximumCreditAmount
    authorizedCost := maximumCost
    currency := request.currency
    holdExpiresAt := holdExpiresAt
    entitlements := entitlement.entitlements
    billingEvidence := ⟨entitlement.id, entitlement.snapshotHash, plan.id⟩
    policySnapshot := {
      schemaVersion := 1
      operationKind := request.operationKind
      planVersionId := plan.id
      planPolicyHash := plan.policyHash
      priceVersionId := price.id
      pricingHash := price.pricingHash
      metricKey := price.metricKey
      authorizedCost := maximumCost
      authorizedCeiling := ceiling
      currency := request.currency
      holdTtlSeconds := policy.holdTtl } }

def authorize (ctx : CallContext) (now : Int) (request : BudgetRequest) (b : Books) :
    Except Failure BudgetAuthorization := do
  let authorization ← authorizeCosts readers rows ctx now request
  let account ← accountOf b
  require (authorization.maximumCreditAmount ≤ account.availableBalance) (.app {
    code := "CREDIT_BALANCE_INSUFFICIENT"
    message := "승인된 최대 비용을 Hold할 크레딧이 부족합니다."
    statusCode := 402
    remediation := some [("required", .amount authorization.maximumCreditAmount),
      ("available", .amount account.availableBalance)] })
  .ok authorization

end BlogOps.Billing
