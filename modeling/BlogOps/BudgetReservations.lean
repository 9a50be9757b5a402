import BlogOps.BudgetPolicy
import BlogOps.HoldPlacements
import Mathlib

/-!
# Reservation of a job's budget

`_BillingJobBudgetAdapter._reserve` authorizes the costs of a job and places a
hold for the authorized credits.  It reads the clock twice: once to authorize,
once in `create_hold`.  The expiry of the hold counts from the first reading and
is part of the hashed request, so a reservation is recognised as a repetition
only at that very instant, and only while its credits are available once more.
-/

namespace BlogOps.Billing

open KeyedTables TransitionRuns

/-- `value <= bound`, false for an infinity or a NaN. -/
def DecimalValue.atMost (bound : ℚ) : DecimalValue → Bool
  | .finite value => value ≤ bound
  | .special => false

/-- `CreditHoldCreate(...)` with the bounds of its schema. -/
def holdRequest (authorization : BudgetAuthorization) (request : BudgetRequest) :
    Except Failure CreditHoldCreate :=
  if hpos : 0 < authorization.maximumCreditAmount then
    if authorization.maximumCreditAmount < 10 ^ 19 ∧ textFits 1 80 request.subjectType ∧
        textFits 1 500 request.subjectId ∧ textFits 1 120 request.operationKind ∧
        textFits 8 255 request.idempotencyKey then
      .ok {
        subjectType := request.subjectType
        subjectId := request.subjectId
        operation := request.operationKind
        priceVersionId := authorization.priceVersionId
        maximumAmount := authorization.maximumCreditAmount
        maximumAmount_pos := hpos
        idempotencyKey := request.idempotencyKey
        expiresAt := authorization.holdExpiresAt }
    else .error .validationError
  else .error .validationError

/-- What `_reserve` checks of an authorization before it asks for the hold. -/
def reservationData (authorization : BudgetAuthorization) (request : BudgetRequest) :
    Except Failure CreditHoldCreate := do
  require (authorization.currency = request.currency ∧
      request.estimatedCost.atMost authorization.authorizedCost) (.app {
    code := "BILLING_BUDGET_AUTHORIZATION_INVALID"
    message := "비용 승인 결과가 요청 통화 또는 최소 예상 비용과 일치하지 않습니다."
    statusCode := 503 })
  require (request.requestedMaximumCost.all (·.atMost authorization.authorizedCost)) (.app {
    code := "BILLING_MAXIMUM_COST_NOT_AUTHORIZED"
    message := "요청한 최대 비용 전액이 승인되지 않아 작업을 시작할 수 없습니다."
    statusCode := 402 })
  holdRequest authorization request

def reserve (readers : PolicyReaders) (rows : BudgetPolicyRows) (ctx : CallContext) (now : Int)
    (request : BudgetRequest) (b : Books) : Except Failure ((CreditHold × BudgetAuthorization) × Books) := do
  let authorization ← authorize readers rows ctx now request b
  let data ← reservationData authorization request
  let (hold, b) ← createHold ctx data b
  .ok ((hold, authorization), b)

/-- The rows and the policy an authorization was made from. -/
structure BudgetBasis where
  maximumCost : ℚ
  subscription : BillingSubscription
  plan : BillingPlanVersion
  entitlement : EntitlementSnapshot
  policy : OperationPolicy
  price : BillingPriceVersion

structure Authorizes (readers : PolicyReaders) (rows : BudgetPolicyRows) (ctx : CallContext)
    (now : Int) (request : BudgetRequest) (basis : BudgetBasis)
    (authorization : BudgetAuthorization) : Prop where
  maximum : validateRequest request = .ok basis.maximumCost
  subscription : rows.subscription = some basis.subscription
  plan : rows.plans.find? (·.id = basis.subscription.planVersionId) = some basis.plan
  entitlement : (basis.subscription.entitlementSnapshotId.bind fun snapshotId =>
    rows.entitlements.find? (·.id = snapshotId)) = some basis.entitlement
  policy : operationPolicy basis.plan basis.entitlement request.operationKind request.currency =
    .ok basis.policy
  price : budgetPrice readers ctx now basis.policy.operation request = .ok basis.price
  credits : priceCreditAmount basis.price basis.maximumCost = .ok authorization.maximumCreditAmount
  credits_pos : 0 < authorization.maximumCreditAmount
  credits_lt : authorization.maximumCreditAmount < 10 ^ 19
  price_id : authorization.priceVersionId = basis.price.id
  cost : authorization.authorizedCost = basis.maximumCost
  currency : authorization.currency = request.currency
  expires : authorization.holdExpiresAt = now + basis.policy.holdTtl * 10 ^ 6
  price_outlives : ∀ retired, basis.price.retiredAt = some retired → authorization.holdExpiresAt ≤ retired

variable {subscription : BillingSubscription} {b' : Books}

theorem subscriptionOf_ok {rows : BudgetPolicyRows} (h : subscriptionOf rows = .ok subscription) :
    rows.subscription = some subscription := by
  unfold subscriptionOf at h
  split at h
  · cases h
    assumption
  · cases h

section

variable {rows : BudgetPolicyRows} {now : Int} {plan : BillingPlanVersion}

theorem budgetPlan_ok {ctx : CallContext} (h : budgetPlan rows ctx now subscription = .ok plan) :
    rows.plans.find? (·.id = subscription.planVersionId) = some plan := by
  unfold budgetPlan at h
  split at h
  · cases h
  · split_ifs at h
    cases h
    assumption

theorem budgetEntitlement_ok {entitlement : EntitlementSnapshot}
    (h : budgetEntitlement rows now subscription plan = .ok entitlement) :
    (subscription.entitlementSnapshotId.bind fun snapshotId =>
      rows.entitlements.find? (·.id = snapshotId)) = some entitlement := by
  unfold budgetEntitlement at h
  split at h
  · cases h
  · rename_i snapshotId hsnapshot
    split at h
    · cases h
    · split_ifs at h
      cases h
      rw [hsnapshot, Option.bind_some]
      assumption

end

section

variable {readers : PolicyReaders} {rows : BudgetPolicyRows} {ctx : CallContext} {now : Int}
    {request : BudgetRequest} {authorization : BudgetAuthorization}

theorem authorizeCosts_ok (h : authorizeCosts readers rows ctx now request = .ok authorization) :
    ∃ basis, Authorizes readers rows ctx now request basis authorization := by
  obtain ⟨maximumCost, hmaximum, h⟩ := bind_ok h
  obtain ⟨subscription, hsubscription, h⟩ := bind_ok h
  obtain ⟨plan, hplan, h⟩ := bind_ok h
  obtain ⟨entitlement, hentitlement, h⟩ := bind_ok h
  obtain ⟨policy, hpolicy, h⟩ := bind_ok h
  obtain ⟨_, _, h⟩ := bind_ok h
  obtain ⟨deadline, _, h⟩ := bind_ok h
  obtain ⟨ceiling, _, h⟩ := bind_ok h
  obtain ⟨price, hprice, h⟩ := bind_ok h
  obtain ⟨credits, hcredits, h⟩ := bind_ok h
  obtain ⟨_, hrange, h⟩ := bind_ok h
  obtain ⟨_, hlimits, h⟩ := bind_ok h
  have hrange := require_ok hrange
  have hlimits := require_ok hlimits
  cases h
  refine ⟨⟨maximumCost, subscription, plan, entitlement, policy, price⟩, hmaximum,
    subscriptionOf_ok hsubscription, budgetPlan_ok hplan, budgetEntitlement_ok hentitlement,
    hpolicy, hprice, hcredits, hrange.1, hrange.2, rfl, rfl, rfl, rfl, ?_⟩
  intro retired hretired
  apply hlimits retired
  simp only at hretired
  simp [List.reduceOption, hretired]

/-- The policy rows fix how long a hold lives. -/
theorem Authorizes.lifetime {now' : Int} {basis basis' : BudgetBasis} {authorization' : BudgetAuthorization}
    (h : Authorizes readers rows ctx now request basis authorization)
    (h' : Authorizes readers rows ctx now' request basis' authorization') :
    authorization'.holdExpiresAt - now' = authorization.holdExpiresAt - now := by
  have hsubscription : basis'.subscription = basis.subscription :=
    Option.some.inj (h'.subscription.symm.trans h.subscription)
  have hplan := h'.plan
  have hentitlement := h'.entitlement
  rw [hsubscription] at hplan hentitlement
  have hsamePlan : basis'.plan = basis.plan := Option.some.inj (hplan.symm.trans h.plan)
  have hsameEntitlement : basis'.entitlement = basis.entitlement :=
    Option.some.inj (hentitlement.symm.trans h.entitlement)
  have hpolicy := h'.policy
  rw [hsamePlan, hsameEntitlement] at hpolicy
  have hsamePolicy : basis'.policy = basis.policy := Except.ok.inj (hpolicy.symm.trans h.policy)
  have hexpires := h.expires
  have hexpires' := h'.expires
  rw [hsamePolicy] at hexpires'
  omega

theorem authorize_ok {b : Books} (h : authorize readers rows ctx now request b = .ok authorization) :
    authorizeCosts readers rows ctx now request = .ok authorization ∧
      authorization.maximumCreditAmount ≤ availableBalance b := by
  obtain ⟨answer, hcosts, h⟩ := bind_ok h
  obtain ⟨account, haccount, h⟩ := bind_ok h
  obtain ⟨_, hbalance, h⟩ := bind_ok h
  have hbalance := require_ok hbalance
  cases h
  rw [availableBalance_some (accountOf_ok haccount)]
  exact ⟨hcosts, hbalance⟩

theorem authorize_of_balance {b : Books}
    (hcosts : authorizeCosts readers rows ctx now request = .ok authorization)
    (hpos : 0 < authorization.maximumCreditAmount)
    (hbalance : authorization.maximumCreditAmount ≤ availableBalance b) :
    authorize readers rows ctx now request b = .ok authorization := by
  cases haccount : b.account with
  | none =>
    simp only [availableBalance, haccount, Option.elim_none] at hbalance
    omega
  | some account =>
    rw [availableBalance_some haccount] at hbalance
    unfold authorize
    rw [bind_of_ok hcosts, bind_of_ok (accountOf_eq haccount)]
    exact bind_of_ok (require_of hbalance _) _

end

/-- The request of a hold that an authorization of the reservation was turned into. -/
structure Requests (request : BudgetRequest) (authorization : BudgetAuthorization)
    (data : CreditHoldCreate) : Prop where
  key : ∀ hold, sameKey data hold = (hold.subjectType = request.subjectType ∧
    hold.subjectId = request.subjectId ∧ hold.idempotencyKey = request.idempotencyKey : Bool)
  price : data.priceVersionId = authorization.priceVersionId
  amount : data.maximumAmount = authorization.maximumCreditAmount
  expires : data.expiresAt = authorization.holdExpiresAt
  subject : textFits 1 500 data.subjectId

theorem reservationData_ok {authorization : BudgetAuthorization} {request : BudgetRequest}
    {data : CreditHoldCreate} (h : reservationData authorization request = .ok data) :
    Requests request authorization data := by
  obtain ⟨_, _, h⟩ := bind_ok h
  obtain ⟨_, _, h⟩ := bind_ok h
  unfold holdRequest at h
  split_ifs at h with hpos hfits
  cases h
  exact ⟨fun _ => rfl, rfl, rfl, rfl, hfits.2.2.1⟩

section

variable {readers : PolicyReaders} {rows : BudgetPolicyRows} {ctx : CallContext} {now : Int}
    {request : BudgetRequest} {b : Books} {hold : CreditHold} {authorization : BudgetAuthorization}

theorem reserve_ok (h : reserve readers rows ctx now request b = .ok ((hold, authorization), b')) :
    authorize readers rows ctx now request b = .ok authorization ∧
      ∃ data, reservationData authorization request = .ok data ∧
        createHold ctx data b = .ok (hold, b') := by
  obtain ⟨answer, hauthorize, h⟩ := bind_ok h
  obtain ⟨data, hdata, h⟩ := bind_ok h
  obtain ⟨⟨row, after⟩, hcreate, h⟩ := bind_ok h
  cases h
  exact ⟨hauthorize, data, hdata, hcreate⟩

theorem reserve_of {data : CreditHoldCreate}
    (hauthorize : authorize readers rows ctx now request b = .ok authorization)
    (hdata : reservationData authorization request = .ok data)
    (hcreate : createHold ctx data b = .ok (hold, b')) :
    reserve readers rows ctx now request b = .ok ((hold, authorization), b') := by
  unfold reserve
  rw [bind_of_ok hauthorize, bind_of_ok hdata]
  exact bind_of_ok hcreate _

end

/-- What a reservation that created its hold authorized, asked for and placed. -/
structure Reserved (readers : PolicyReaders) (rows : BudgetPolicyRows) (ctx : CallContext)
    (now : Int) (request : BudgetRequest) (hold : CreditHold)
    (authorization : BudgetAuthorization) (basis : BudgetBasis) (data : CreditHoldCreate)
    (b₁ : Books) : Prop where
  costs : authorizeCosts readers rows ctx now request = .ok authorization
  authorizes : Authorizes readers rows ctx now request basis authorization
  checked : reservationData authorization request = .ok data
  books : BooksInvariant b₁
  price : ∃ price, priceOf ctx data.priceVersionId = .ok price ∧ hold.priceVersionId = price.id ∧
    hold.pricingSnapshot = priceSnapshot price
  hash : hold.requestHash = ctx.canonicalHash data
  amount : hold.maximumAmount = authorization.maximumCreditAmount
  expires : hold.expiresAt = authorization.holdExpiresAt
  subject : hold.subjectId = data.subjectId
  found : b₁.holds.find? (sameKey data) = some hold

theorem reserved_of_created {readers : PolicyReaders} {rows : BudgetPolicyRows}
    {ctx : CallContext} {now : Int} {request : BudgetRequest} {b b₁ : Books} {hold : CreditHold}
    {authorization : BudgetAuthorization} (hb : BooksInvariant b)
    (hreserve : reserve readers rows ctx now request b = .ok ((hold, authorization), b₁))
    (hcreated : ∀ row ∈ b.holds, row.id ≠ hold.id) :
    ∃ basis data, Reserved readers rows ctx now request hold authorization basis data b₁ := by
  obtain ⟨hauthorize, data, hdata, hcreate⟩ := reserve_ok hreserve
  obtain ⟨hcosts, -⟩ := authorize_ok hauthorize
  obtain ⟨basis, hbasis⟩ := authorizeCosts_ok hcosts
  have hrequests := reservationData_ok hdata
  have hb₁ := (effect_createHold hb hcreate).books hb
  cases (createHold_ok hcreate).2 with
  | repeated hfind _ _ => exact absurd rfl (hcreated hold (List.mem_of_find?_eq_some hfind))
  | created price account hfind hprice haccount hhold hholds =>
    have hkey : sameKey data hold = true := by
      rw [hhold]
      simp [sameKey, newHold]
    refine ⟨basis, data, hcosts, hbasis, hdata, hb₁, ⟨price, hprice, ?_, ?_⟩, ?_, ?_, ?_, ?_, ?_⟩
    · rw [hhold, newHold]
    · rw [hhold, newHold]
    · rw [hhold, newHold]
    · rw [← hrequests.amount, hhold, newHold]
    · rw [← hrequests.expires, hhold, newHold]
    · rw [hhold, newHold]
    · rw [hholds, List.find?_append, hfind]
      simp [hkey]

section Repetition

variable {readers : PolicyReaders} {rows : BudgetPolicyRows} {ctx laterCtx : CallContext}
  {now later : Int} {request : BudgetRequest} {b b₁ : Books} {hold row : CreditHold}
  {authorization : BudgetAuthorization} {basis : BudgetBasis} {data : CreditHoldCreate}

/-- Another call of the same worker for the same workspace: only the clock and the fresh ids
differ. -/
def SameCaller (ctx laterCtx : CallContext) : Prop :=
  laterCtx = { ctx with now := laterCtx.now, newId := laterCtx.newId }

theorem SameCaller.authorizeCosts_eq (h : SameCaller ctx laterCtx) :
    authorizeCosts readers rows laterCtx later request =
      authorizeCosts readers rows ctx later request := by
  rw [h]
  rfl

theorem SameCaller.canonicalHash_eq (h : SameCaller ctx laterCtx) :
    laterCtx.canonicalHash = ctx.canonicalHash := by
  rw [h]

section

variable (h : Reserved readers rows ctx now request hold authorization basis data b₁)
    (hctx : SameCaller ctx laterCtx)

include h hctx

/-- A repetition that returns the placed hold was authorized at the same instant. -/
theorem Reserved.repeated {answer : BudgetAuthorization} {again : CreditHold}
    (hhash : ∀ data data', ctx.canonicalHash data = ctx.canonicalHash data' →
      data.expiresAt = data'.expiresAt)
    (hrow : b.holds.find? (sameKey data) = some row) (hplacement : placement row = placement hold)
    (hagain : reserve readers rows laterCtx later request b = .ok ((again, answer), b')) :
    later = now ∧ laterCtx.now < hold.expiresAt ∧ hold.maximumAmount ≤ availableBalance b := by
  obtain ⟨hauthorize, data', hdata, hcreate⟩ := reserve_ok hagain
  obtain ⟨hcosts, hbalance⟩ := authorize_ok hauthorize
  rw [hctx.authorizeCosts_eq] at hcosts
  obtain ⟨basis', hbasis⟩ := authorizeCosts_ok hcosts
  have hrequests := reservationData_ok h.checked
  have hrequests' := reservationData_ok hdata
  have hsameKey : sameKey data' = sameKey data := by
    funext row
    rw [hrequests'.key, hrequests.key]
  have hrowHash : row.requestHash = hold.requestHash :=
    eq_of_placement (·.requestHash) (fun _ => rfl) hplacement
  obtain ⟨hexpiry, hanswer⟩ := createHold_ok hcreate
  have hexpires : data'.expiresAt = data.expiresAt := by
    cases hanswer with
    | repeated hfind hhash' _ =>
      rw [hsameKey, hrow] at hfind
      cases hfind
      rw [hctx.canonicalHash_eq] at hhash'
      exact hhash data' data (hhash'.symm.trans (hrowHash.trans h.hash))
    | created _ _ hfind _ _ _ _ =>
      rw [hsameKey, hrow] at hfind
      cases hfind
  have hlater : later = now := by
    have hlifetime := h.authorizes.lifetime hbasis
    rw [← hrequests.expires, ← hrequests'.expires] at hlifetime
    omega
  rw [hlater, h.costs] at hcosts
  cases hcosts
  refine ⟨hlater, ?_, h.amount ▸ hbalance⟩
  rw [h.expires, ← hrequests'.expires]
  exact hexpiry

theorem Reserved.repeats (hrow : b.holds.find? (sameKey data) = some row)
    (hplacement : placement row = placement hold) (hexpiry : laterCtx.now < hold.expiresAt)
    (hbalance : hold.maximumAmount ≤ availableBalance b) :
    reserve readers rows laterCtx now request b = .ok ((row, authorization), b) := by
  have hauthorize : authorize readers rows laterCtx now request b = .ok authorization :=
    authorize_of_balance (hctx.authorizeCosts_eq.trans h.costs) h.authorizes.credits_pos (h.amount ▸ hbalance)
  have hunexpired : laterCtx.now < data.expiresAt := by
    rw [(reservationData_ok h.checked).expires, ← h.expires]
    exact hexpiry
  have hrowHash : row.requestHash = laterCtx.canonicalHash data := by
    rw [hctx.canonicalHash_eq, ← h.hash]
    exact eq_of_placement (·.requestHash) (fun _ => rfl) hplacement
  exact reserve_of hauthorize h.checked (createHold_repeats hunexpired hrow hrowHash)

end

/-- A reservation that created a hold is repeated, after any credit calls, by one that reads the
clock at the same instant, finds the hold unexpired and its credits available once more; every
other repetition fails. -/
theorem reserve_repeats_iff (hreach : Reachable transact emptyBooks b)
    (hreserve : reserve readers rows ctx now request b = .ok ((hold, authorization), b₁))
    (hcreated : ∀ row ∈ b.holds, row.id ≠ hold.id)
    (hhash : ∀ data data', ctx.canonicalHash data = ctx.canonicalHash data' →
      data.expiresAt = data'.expiresAt)
    (calls : List (CallContext × CreditCall)) (hctx : SameCaller ctx laterCtx) :
    (∃ again answer, reserve readers rows laterCtx later request (run transact b₁ calls) =
        .ok ((again, answer), run transact b₁ calls) ∧ again.id = hold.id) ↔
      later = now ∧ laterCtx.now < hold.expiresAt ∧
        hold.maximumAmount ≤ availableBalance (run transact b₁ calls) := by
  have hb := invariant_reachable transact (fun _ => BooksInvariant.initial) booksInvariant_transact hreach
  obtain ⟨basis, data, hreserved⟩ := reserved_of_created hb hreserve hcreated
  obtain ⟨row, hrow, hplacement⟩ := find?_sameKey_run hreserved.books hreserved.found calls
  constructor
  · rintro ⟨again, answer, hagain, -⟩
    exact hreserved.repeated hctx hhash hrow hplacement hagain
  · rintro ⟨rfl, hexpiry, hbalance⟩
    have hid : row.id = hold.id := eq_of_placement (·.id) (fun _ => rfl) hplacement
    exact ⟨row, authorization, hreserved.repeats hctx hrow hplacement hexpiry hbalance, hid⟩

end Repetition

/-- The policy values of `samplePolicyRows` as Python reads them. -/
def samplePolicyReaders : PolicyReaders where
  decimal
    | .int value => some (.finite value)
    | _ => none
  uuid
    | .text "00000000-0000-0000-0000-000000000007" => some 7
    | _ => none
  decimalText value := toString value

def samplePolicyRows : BudgetPolicyRows where
  subscription := some {
    planVersionId := 11, state := .active, currentPeriodStart := some 0
    currentPeriodEnd := some (10 ^ 12), trialStartedAt := none, trialEndsAt := none
    entitlementSnapshotId := some 12 }
  plans := [{
    id := 11, workspaceId := none, state := .active, policyHash := "plan", effectiveAt := 0
    retiredAt := none
    creditPolicy := [("job_budget_authorization", .object [ ("schema_version", .int 1),
      ("allowed_subscription_states", .list [.text "ACTIVE"]),
      ("hold_ttl_seconds", .int 60),
      ("operations", .object [("repurpose.generate", .object [
        ("enabled", .bool true), ("currency", .text "KRW"), ("maximum_cost", .int 50),
        ("metric_key", .text "tokens"),
        ("price_version_id", .text "00000000-0000-0000-0000-000000000007")])])])] }]
  entitlements := [{
    id := 12, planVersionId := 11, snapshotHash := "snapshot", validFrom := 0, validUntil := none
    entitlements := [("job_budget_operations", .object [("repurpose.generate", .object [
      ("enabled", .bool true), ("currency", .text "KRW"), ("maximum_cost", .int 40)])])] }]

def sampleBudgetRequest : BudgetRequest where
  operationKind := "repurpose.generate"
  subjectType := "repurpose_job"
  subjectId := "request-hash"
  idempotencyKey := "repurpose:key"
  estimatedCost := .finite 3
  requestedMaximumCost := some (.finite 3)
  currency := "KRW"

/-- Hashes tell the expiry times of requests apart. -/
def budgetContextAt (now : Nat) : CallContext :=
  { contextAt now with canonicalHash := fun data => Int.repr data.expiresAt }

def fundedBooks : Books := run transact {} [ (contextAt 1, .createCreditAccount),
  (contextAt 2, .grantCredits {
    bucketKind := .monthly, amount := 7000000, amount_pos := seven_million_pos, sourceType := "plan"
    sourceId := "1", expiresAt := none, reasonCode := "MONTHLY" })]

theorem reachable_fundedBooks : Reachable transact emptyBooks fundedBooks :=
  ⟨{}, _, by simp [emptyBooks], rfl⟩

theorem sampleReservation :
    ∃ reservation b₁, reserve samplePolicyReaders samplePolicyRows (budgetContextAt 10) 9
      sampleBudgetRequest fundedBooks = .ok (reservation, b₁) := by
  obtain ⟨answer, hreserve, -⟩ := ok_of_test (x := reserve samplePolicyReaders samplePolicyRows
    (budgetContextAt 10) 9 sampleBudgetRequest fundedBooks) (fun _ => true) (by decide +kernel)
  exact ⟨answer.1, answer.2, hreserve⟩

theorem reserve_repeats_sample :
    ∃ hold authorization b₁, reserve samplePolicyReaders samplePolicyRows (budgetContextAt 10) 9
        sampleBudgetRequest fundedBooks = .ok ((hold, authorization), b₁) ∧
      ((∃ again answer, reserve samplePolicyReaders samplePolicyRows (budgetContextAt 20) 9
          sampleBudgetRequest b₁ = .ok ((again, answer), b₁) ∧ again.id = hold.id) ↔
        (9 : Int) = 9 ∧ (budgetContextAt 20).now < hold.expiresAt ∧
          hold.maximumAmount ≤ availableBalance b₁) := by
  obtain ⟨⟨hold, authorization⟩, b₁, hreserve⟩ := sampleReservation
  refine ⟨hold, authorization, b₁, hreserve, ?_⟩
  refine reserve_repeats_iff reachable_fundedBooks hreserve ?_ ?_ [] rfl
  · have hnone : fundedBooks.holds = [] := by decide +kernel
    simp [hnone]
  · intro data data' hsame
    exact Int.repr_injective hsame

/-- Ten microseconds later the same reservation is taken for another request under its key. -/
theorem reserve_later_refused :
    ∃ hold authorization b₁, reserve samplePolicyReaders samplePolicyRows (budgetContextAt 10) 9
        sampleBudgetRequest fundedBooks = .ok ((hold, authorization), b₁) ∧
      Reachable transact emptyBooks fundedBooks ∧ (∀ row ∈ fundedBooks.holds, row.id ≠ hold.id) ∧
      ∃ error, reserve samplePolicyReaders samplePolicyRows (budgetContextAt 20) 19
        sampleBudgetRequest b₁ = .error (.app error) ∧ error.code = "IDEMPOTENCY_KEY_REUSED" := by
  obtain ⟨⟨hold, authorization⟩, b₁, hreserve⟩ := sampleReservation
  refine ⟨hold, authorization, b₁, hreserve, reachable_fundedBooks, ?_, ?_⟩
  · have hnone : fundedBooks.holds = [] := by decide +kernel
    simp [hnone]
  · have hrefused : (reserve samplePolicyReaders samplePolicyRows (budgetContextAt 10) 9
        sampleBudgetRequest fundedBooks >>= fun answer =>
        (reserve samplePolicyReaders samplePolicyRows (budgetContextAt 20) 19 sampleBudgetRequest
          answer.2).map fun _ => ()) = .error (.app {
            code := "IDEMPOTENCY_KEY_REUSED"
            message := "같은 멱등키의 Hold 요청이 다릅니다."
            statusCode := 409 }) := by
      decide +kernel
    rw [bind_of_ok hreserve] at hrefused
    exact ⟨_, map_error hrefused, rfl⟩

end BlogOps.Billing
