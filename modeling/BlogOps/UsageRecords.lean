import BlogOps.CreditOperations
import BlogOps.PricingRules

/-!
# Metering

`record_usage`: an append-only raw meter event, priced by the version its
request names at the time the usage occurred.
-/

namespace BlogOps.Billing

structure UsageRecordCreate where
  sourceEventId : String
  subjectType : String
  subjectId : String
  metricKey : String
  quantity : Int
  priceVersionId : Uuid
  occurredAt : Int
deriving DecidableEq, Repr

structure UsageRecord where
  id : Uuid
  sourceEventId : String
  subjectType : String
  subjectId : String
  metricKey : String
  quantity : Int
  unitName : String
  priceVersionId : Uuid
  pricingSnapshot : PriceSnapshot
  creditAmount : Int
  internalCost : ℚ
  costCurrency : String
  occurredAt : Int
  finalizedAt : Int
deriving DecidableEq, Repr

/-- The schema of a usage request; a quantity has 13 digits before its point. -/
def usageAccepted (data : UsageRecordCreate) : Bool :=
  textFits 8 500 data.sourceEventId && textFits 1 80 data.subjectType &&
    textFits 1 500 data.subjectId && textFits 1 160 data.metricKey &&
    0 < data.quantity && data.quantity < 10 ^ 19

/-- What a `Numeric(19, 6)` column stores of a decimal, in units of `0.000001`: rounded half
away from zero. -/
def storedNumeric (value : ℚ) : Int :=
  if 0 ≤ value then ⌊value * 10 ^ 6 + 1 / 2⌋ else -⌊-value * 10 ^ 6 + 1 / 2⌋

def insertUsage (row : UsageRecord) (usage : List UsageRecord) : Except Failure (List UsageRecord) :=
  if usage.any (·.id = row.id) then .error (.integrity "pk_billing_usage_records")
  else if usage.any (·.sourceEventId = row.sourceEventId) then
    .error (.integrity "billing_usage_source_once")
  else if !(numericFits row.creditAmount && numericFits (storedNumeric row.internalCost)) then
    .error (.integrity "numeric")
  else .ok (usage ++ [row])

def internalCost (price : BillingPriceVersion) (units : ℚ) : ℚ :=
  inContext (units * numeric price.internalUnitCost)

/-- The row `record_usage` writes of a new event. -/
def usageRow (ctx : CallContext) (data : UsageRecordCreate) (price : BillingPriceVersion)
    (units : ℚ) (credits : Int) : UsageRecord where
  id := ctx.newId 3
  sourceEventId := data.sourceEventId
  subjectType := data.subjectType
  subjectId := data.subjectId
  metricKey := data.metricKey
  quantity := data.quantity
  unitName := price.unitName
  priceVersionId := price.id
  pricingSnapshot := priceSnapshot price
  creditAmount := credits
  internalCost := internalCost price units
  costCurrency := price.costCurrency
  occurredAt := data.occurredAt
  finalizedAt := ctx.now

def recordUsage (ctx : CallContext) (data : UsageRecordCreate) (usage : List UsageRecord) :
    Except Failure (UsageRecord × List UsageRecord) :=
  match usage.find? (·.sourceEventId = data.sourceEventId) with
  | some existing =>
    if existing.quantity ≠ data.quantity ∨ existing.metricKey ≠ data.metricKey ∨
        existing.priceVersionId ≠ data.priceVersionId ∨
        existing.subjectType ≠ data.subjectType ∨ existing.subjectId ≠ data.subjectId then
      .error (.app {
        code := "USAGE_EVENT_REUSED"
        message := "같은 사용량 이벤트의 내용이 다릅니다."
        statusCode := 409 })
    else .ok (existing, usage)
  | none => do
    let price ← priceOf { ctx with now := data.occurredAt } data.priceVersionId
    require (price.metricKey = data.metricKey) (.app {
      code := "USAGE_PRICE_METRIC_MISMATCH"
      message := "사용량 지표와 가격표 지표가 다릅니다."
      statusCode := 422 })
    let units ← pricedQuantity price (numeric data.quantity)
    let credits ← priceCreditAmount price (numeric data.quantity)
    let usage ← insertUsage (usageRow ctx data price units credits) usage
    .ok (usageRow ctx data price units credits, usage)

variable {row : UsageRecord} {usage usage' : List UsageRecord} {ctx : CallContext}
variable {data : UsageRecordCreate}

theorem insertUsage_ok (h : insertUsage row usage = .ok usage') :
    usage' = usage ++ [row] ∧ numericFits row.creditAmount = true ∧
      numericFits (storedNumeric row.internalCost) = true := by
  unfold insertUsage at h
  split_ifs at h with _ _ hfits
  cases h
  refine ⟨rfl, ?_⟩
  simpa using hfits

theorem insertUsage_of (hid : ∀ other ∈ usage, other.id ≠ row.id)
    (hevent : ∀ other ∈ usage, other.sourceEventId ≠ row.sourceEventId)
    (hcredits : numericFits row.creditAmount = true)
    (hcost : numericFits (storedNumeric row.internalCost) = true) :
    insertUsage row usage = .ok (usage ++ [row]) := by
  unfold insertUsage
  rw [if_neg (by simpa using hid), if_neg (by simpa using hevent), if_neg (by simp [hcredits, hcost])]

theorem find?_newEvent {event : String} (hevent : ∀ other ∈ usage, other.sourceEventId ≠ event) :
    usage.find? (·.sourceEventId = event) = none := by
  rw [List.find?_eq_none]
  intro other hother
  simpa using hevent other hother

theorem recordUsage_ok (hevent : ∀ other ∈ usage, other.sourceEventId ≠ data.sourceEventId)
    (h : recordUsage ctx data usage = .ok (row, usage')) :
    ∃ price units credits, priceOf { ctx with now := data.occurredAt } data.priceVersionId =
        .ok price ∧ pricedQuantity price (numeric data.quantity) = .ok units ∧
      priceCreditAmount price (numeric data.quantity) = .ok credits ∧
      row = usageRow ctx data price units credits ∧ usage' = usage ++ [row] ∧
      numericFits (storedNumeric (internalCost price units)) = true := by
  unfold recordUsage at h
  simp only [find?_newEvent hevent] at h
  obtain ⟨price, hprice, h⟩ := bind_ok h
  obtain ⟨_, _, h⟩ := bind_ok h
  obtain ⟨units, hunits, h⟩ := bind_ok h
  obtain ⟨credits, hcredits, h⟩ := bind_ok h
  obtain ⟨rows, hrows, h⟩ := bind_ok h
  cases h
  obtain ⟨happended, -, hcost⟩ := insertUsage_ok hrows
  exact ⟨price, units, credits, hprice, hunits, hcredits, rfl, happended, hcost⟩

theorem recordUsage_of {price : BillingPriceVersion} {units : ℚ} {credits : Int}
    (hid : ∀ other ∈ usage, other.id ≠ ctx.newId 3)
    (hevent : ∀ other ∈ usage, other.sourceEventId ≠ data.sourceEventId)
    (hprice : priceOf { ctx with now := data.occurredAt } data.priceVersionId = .ok price)
    (hmetric : price.metricKey = data.metricKey)
    (hunits : pricedQuantity price (numeric data.quantity) = .ok units)
    (hcredits : priceCreditAmount price (numeric data.quantity) = .ok credits)
    (hfits : numericFits credits = true)
    (hcost : numericFits (storedNumeric (internalCost price units)) = true) :
    recordUsage ctx data usage = .ok (usageRow ctx data price units credits,
      usage ++ [usageRow ctx data price units credits]) := by
  have hinsert : insertUsage (usageRow ctx data price units credits) usage =
      .ok (usage ++ [usageRow ctx data price units credits]) :=
    insertUsage_of hid hevent hfits hcost
  unfold recordUsage
  simp only [find?_newEvent hevent]
  rw [bind_of_ok hprice, bind_of_ok (require_of hmetric _), bind_of_ok hunits,
    bind_of_ok hcredits, bind_of_ok hinsert]

theorem recordUsage_extends (h : recordUsage ctx data usage = .ok (row, usage')) : usage <+: usage' := by
  unfold recordUsage at h
  split at h
  · split_ifs at h
    cases h
    exact List.prefix_rfl
  · obtain ⟨_, _, h⟩ := bind_ok h
    obtain ⟨_, _, h⟩ := bind_ok h
    obtain ⟨_, _, h⟩ := bind_ok h
    obtain ⟨_, _, h⟩ := bind_ok h
    obtain ⟨_, hinsert, h⟩ := bind_ok h
    cases h
    rw [(insertUsage_ok hinsert).1]
    exact List.prefix_append _ _

end BlogOps.Billing
