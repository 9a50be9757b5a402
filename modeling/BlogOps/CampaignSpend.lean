import BlogOps.AppErrors
import BlogOps.TransitionRuns
import Mathlib.Algebra.BigOperators.Group.List.Basic
import Mathlib.Algebra.GroupWithZero.Nat

/-!
# Campaign spend

A campaign with its spend ledger: updates of the campaign, and the recording of a spend under the
budget of its category.  Amounts are in units of 0.0001.
-/

namespace BlogOps.CampaignSpend

open TransitionRuns

inductive CampaignStatus where
  | draft | active | paused | completed | archived
deriving DecidableEq, Repr

inductive BudgetCategory where
  | ai | data | advertising
deriving DecidableEq, Repr

inductive BudgetEnforcement where
  | warn | block | pause
deriving DecidableEq, Repr

inductive SpendDecision where
  | allow | warn | block | pause
deriving DecidableEq, Repr

structure BudgetLimit where
  amount : Nat
  currency : String
deriving DecidableEq, Repr

/-- `budget_limits`: at most one limit for each category. -/
structure BudgetLimits where
  ai : Option BudgetLimit := none
  data : Option BudgetLimit := none
  advertising : Option BudgetLimit := none
deriving DecidableEq, Repr

def BudgetLimits.get (limits : BudgetLimits) : BudgetCategory → Option BudgetLimit
  | .ai => limits.ai
  | .data => limits.data
  | .advertising => limits.advertising

def BudgetLimits.set (limits : BudgetLimits) (category : BudgetCategory) (limit : BudgetLimit) :
    BudgetLimits :=
  match category with
  | .ai => { limits with ai := some limit }
  | .data => { limits with data := some limit }
  | .advertising => { limits with advertising := some limit }

/-- `_budget_limits`: the last limit of a category counts. -/
def budgetLimits (items : List (BudgetCategory × BudgetLimit)) : BudgetLimits :=
  items.foldl (fun limits item => limits.set item.1 item.2) {}

/-- `rest` stands for the columns that no budget reads; `budgetLimits` is missing where an update
stored a null. -/
structure Campaign where
  status : CampaignStatus := .draft
  budgetLimits : Option BudgetLimits
  budgetEnforcement : BudgetEnforcement := .warn
  rest : String
  lockVersion : Nat := 1
deriving DecidableEq, Repr

/-- `enforcement` and `limit` are ghosts: what was in force when the entry was recorded. -/
structure CampaignSpendLedger where
  category : BudgetCategory
  amount : Nat
  currency : String
  sourceRef : String
  details : String
  enforcement : BudgetEnforcement
  limit : Option BudgetLimit
deriving DecidableEq, Repr

structure CampaignBooks where
  campaign : Campaign
  ledger : List CampaignSpendLedger := []
deriving DecidableEq, Repr

/-- The sum of the ledger for a category and a currency. -/
def spentOf (ledger : List CampaignSpendLedger) (category : BudgetCategory) (currency : String) : Nat :=
  ((ledger.filter fun entry => entry.category = category && entry.currency = currency).map
    CampaignSpendLedger.amount).sum

structure BudgetResult where
  decision : SpendDecision
  projected : Nat
  limit : Nat
deriving DecidableEq, Repr

def overrun : BudgetEnforcement → SpendDecision
  | .warn => .warn
  | .block => .block
  | .pause => .pause

def evaluateBudget (spent requested limit : Nat) (enforcement : BudgetEnforcement) : BudgetResult where
  decision := if spent + requested ≤ limit then .allow else overrun enforcement
  projected := spent + requested
  limit := limit

/-- The limit of a category without one. -/
def unlimited : Nat := 9_999_999_999_999_999_999

structure SpendRecordCreate where
  expectedCampaignLockVersion : Nat
  category : BudgetCategory
  amount : Nat
  currency : String
  sourceRef : String
  details : String
deriving DecidableEq, Repr

def lockConflict (expected actual : Nat) : Failure := .app {
    code := "OPTIMISTIC_LOCK_CONFLICT"
    message := "다른 요청이 먼저 리소스를 변경했습니다. 최신 값을 다시 조회해 주세요."
    statusCode := 409
    fields := [⟨"resource", "campaign"⟩, ⟨"expected_lock_version", toString expected⟩,
      ⟨"actual_lock_version", toString actual⟩] }

def currencyMismatch : Failure := .app {
    code := "CAMPAIGN_BUDGET_CURRENCY_MISMATCH"
    message := "캠페인 예산 통화와 지출 통화가 다릅니다.", statusCode := 422 }

/-- The unique constraint `campaign_spend_source`, as the flush reports it. -/
def planningConflict : Failure := .app {
    code := "PLANNING_CONFLICT"
    message := "같은 식별자, 버전 또는 계획 항목이 이미 존재합니다."
    statusCode := 409, fields := [⟨"resource", "campaign_spend"⟩] }

/-- Without limits, `budget_limits.get` raises. -/
def limitOf (limits : Option BudgetLimits) (category : BudgetCategory) (currency : String) :
    Except Failure Nat :=
  match limits with
  | none => .error (.integrity "AttributeError")
  | some limits =>
    match limits.get category with
    | none => .ok unlimited
    | some limit => if limit.currency ≠ currency then .error currencyMismatch else .ok limit.amount

/-- A flush with a changed row counts its version up. -/
def Campaign.written (old new : Campaign) : Campaign :=
  if new = old then old else { new with lockVersion := old.lockVersion + 1 }

def ledgerEntry (campaign : Campaign) (data : SpendRecordCreate) : CampaignSpendLedger where
  category := data.category
  amount := data.amount
  currency := data.currency
  sourceRef := data.sourceRef
  details := data.details
  enforcement := campaign.budgetEnforcement
  limit := campaign.budgetLimits.bind (·.get data.category)

/-- What a request meets: whether the database refuses a value of it, and whether the commit that
follows succeeds. -/
structure SpendCall where
  refuses : Bool := false
  commits : Bool := true
deriving DecidableEq, Repr

/-- The rows after the decision, with the unique constraint of the ledger. -/
def applyDecision (data : SpendRecordCreate) (s : CampaignBooks) :
    SpendDecision → Except Failure CampaignBooks
  | .allow | .warn => do
    require (data.sourceRef ∉ s.ledger.map CampaignSpendLedger.sourceRef) planningConflict
    return { s with ledger := s.ledger ++ [ledgerEntry s.campaign data] }
  | .pause => .ok { s with campaign := s.campaign.written { s.campaign with status := .paused } }
  | .block => .ok s

def recordCampaignSpend (call : SpendCall) (data : SpendRecordCreate) (s : CampaignBooks) :
    Except Failure (BudgetResult × CampaignBooks) := do
  require (data.expectedCampaignLockVersion = s.campaign.lockVersion)
    (lockConflict data.expectedCampaignLockVersion s.campaign.lockVersion)
  let limit ← limitOf s.campaign.budgetLimits data.category data.currency
  let result := evaluateBudget (spentOf s.ledger data.category data.currency) data.amount limit
    s.campaign.budgetEnforcement
  let after ← applyDecision data s result.decision
  require (call.refuses = false) .validationError
  return (result, after)

/-- A field that is not set keeps its value.  A null is stored for the limits, whose column is JSON,
and refused for the others. -/
structure CampaignUpdate where
  expectedLockVersion : Nat
  status : Option CampaignStatus := none
  budgetLimits : Option (Option (List (BudgetCategory × BudgetLimit))) := none
  budgetEnforcement : Option BudgetEnforcement := none
  rest : Option String := none
deriving DecidableEq, Repr

def Campaign.updated (campaign : Campaign) (data : CampaignUpdate) : Campaign :=
  { campaign with
    status := data.status.getD campaign.status
    budgetLimits :=
      (data.budgetLimits.map (Option.map CampaignSpend.budgetLimits)).getD campaign.budgetLimits
    budgetEnforcement := data.budgetEnforcement.getD campaign.budgetEnforcement
    rest := data.rest.getD campaign.rest }

/-- The checks of the other columns are those that a refusal stands for. -/
def updateCampaign (call : SpendCall) (data : CampaignUpdate) (s : CampaignBooks) :
    Except Failure CampaignBooks := do
  require (data.expectedLockVersion = s.campaign.lockVersion)
    (lockConflict data.expectedLockVersion s.campaign.lockVersion)
  require (call.refuses = false) .validationError
  return { s with campaign := s.campaign.written (s.campaign.updated data) }

inductive CampaignAction where
  | update (data : CampaignUpdate) (call : SpendCall)
  | spend (data : SpendRecordCreate) (call : SpendCall)
deriving DecidableEq, Repr

/-- A request that raises, or whose commit fails, leaves everything as it was. -/
def CampaignBooks.answer (s : CampaignBooks) (call : SpendCall) :
    Except Failure CampaignBooks → CampaignBooks
  | .ok after => if call.commits = true then after else s
  | .error _ => s

def stepCampaign (s : CampaignBooks) : CampaignAction → CampaignBooks
  | .update data call => s.answer call (updateCampaign call data s)
  | .spend data call => s.answer call ((recordCampaignSpend call data s).map Prod.snd)

def Created (s : CampaignBooks) : Prop :=
  s.ledger = [] ∧ s.campaign.status = .draft ∧ s.campaign.lockVersion = 1

section Spends

variable {s t : CampaignBooks} {data : SpendRecordCreate} {call : SpendCall}

/-- The ledger has an entry of the spend already. -/
def Recorded (s : CampaignBooks) (data : SpendRecordCreate) : Prop :=
  ∃ entry ∈ s.ledger, entry.sourceRef = data.sourceRef ∧ entry.category = data.category ∧
    entry.amount = data.amount ∧ entry.currency = data.currency

/-- The spend is decided on, goes beyond the limit and pauses a campaign that is not paused. -/
structure Pauses (s : CampaignBooks) (data : SpendRecordCreate) (call : SpendCall) : Prop where
  lock : data.expectedCampaignLockVersion = s.campaign.lockVersion
  enforcement : s.campaign.budgetEnforcement = .pause
  status : s.campaign.status ≠ .paused
  exceeds : ∃ limit, limitOf s.campaign.budgetLimits data.category data.currency = .ok limit ∧
    limit < spentOf s.ledger data.category data.currency + data.amount
  accepted : call.refuses = false ∧ call.commits = true

def CampaignBooks.paused (s : CampaignBooks) : CampaignBooks :=
  { s with campaign := s.campaign.written { s.campaign with status := .paused } }

/-- Every way through the recording of a spend. -/
inductive SpendEnd (s : CampaignBooks) (data : SpendRecordCreate) (call : SpendCall) :
    CampaignBooks → Prop where
  | unchanged : SpendEnd s data call s
  | recorded (limit : Nat)
      (hlimit : limitOf s.campaign.budgetLimits data.category data.currency = .ok limit)
      (hwithin : spentOf s.ledger data.category data.currency + data.amount ≤ limit ∨
        s.campaign.budgetEnforcement = .warn)
      (hnew : data.sourceRef ∉ s.ledger.map CampaignSpendLedger.sourceRef) :
      SpendEnd s data call { s with ledger := s.ledger ++ [ledgerEntry s.campaign data] }
  | paused (h : Pauses s data call) : SpendEnd s data call s.paused

theorem written_ne {old new : Campaign} (h : new ≠ old) : old.written new ≠ old := by
  simp only [Campaign.written, h, if_false]
  intro heq
  have hversion := congrArg Campaign.lockVersion heq
  simp at hversion

theorem paused_eq_self (h : s.campaign.status = .paused) : s.paused = s := by
  have hsame : { s.campaign with status := CampaignStatus.paused } = s.campaign := by
    rw [← h]
  simp [CampaignBooks.paused, hsame, Campaign.written]

theorem paused_ne_self (h : s.campaign.status ≠ .paused) : s.paused ≠ s := by
  intro heq
  refine written_ne ?_ (congrArg CampaignBooks.campaign heq)
  intro hsame
  exact h (congrArg Campaign.status hsame).symm

variable {limit : Nat}

theorem evaluateBudget_within {spent requested : Nat} (h : spent + requested ≤ limit)
    (enforcement : BudgetEnforcement) :
    (evaluateBudget spent requested limit enforcement).decision = .allow := by
  simp [evaluateBudget, h]

theorem evaluateBudget_exceeding {spent requested : Nat} (h : limit < spent + requested)
    (enforcement : BudgetEnforcement) :
    (evaluateBudget spent requested limit enforcement).decision = overrun enforcement := by
  simp [evaluateBudget, Nat.not_le.mpr h]

theorem recordCampaignSpend_ok {result : BudgetResult}
    (h : recordCampaignSpend call data s = .ok (result, t)) :
    data.expectedCampaignLockVersion = s.campaign.lockVersion ∧ call.refuses = false ∧
      ∃ limit, limitOf s.campaign.budgetLimits data.category data.currency = .ok limit ∧
        applyDecision data s (evaluateBudget (spentOf s.ledger data.category data.currency)
          data.amount limit s.campaign.budgetEnforcement).decision = .ok t := by
  obtain ⟨_, hlock, h⟩ := bind_ok h
  obtain ⟨limit, hlimit, h⟩ := bind_ok h
  obtain ⟨after, happly, h⟩ := bind_ok h
  obtain ⟨_, haccepted, h⟩ := bind_ok h
  cases h
  exact ⟨require_ok hlock, require_ok haccepted, limit, hlimit, happly⟩

theorem recordCampaignSpend_pauses (h : Pauses s data call) :
    ∃ result, recordCampaignSpend call data s = .ok (result, s.paused) := by
  obtain ⟨limit, hlimit, hexceeds⟩ := h.exceeds
  have happly : applyDecision data s (evaluateBudget
      (spentOf s.ledger data.category data.currency) data.amount limit
      s.campaign.budgetEnforcement).decision = .ok s.paused := by
    rw [evaluateBudget_exceeding hexceeds, h.enforcement]
    rfl
  refine ⟨evaluateBudget (spentOf s.ledger data.category data.currency) data.amount limit
    s.campaign.budgetEnforcement, ?_⟩
  unfold recordCampaignSpend
  rw [bind_of_ok (require_of h.lock _), bind_of_ok hlimit]
  exact (bind_of_ok happly _).trans (bind_of_ok (require_of h.accepted.1 _) _)

theorem step_pauses (h : Pauses s data call) : stepCampaign s (.spend data call) = s.paused := by
  obtain ⟨result, hrun⟩ := recordCampaignSpend_pauses h
  simp [stepCampaign, hrun, CampaignBooks.answer, Except.map, h.accepted.2]

theorem applyDecision_recorded {decision : SpendDecision}
    (hdecision : decision = .allow ∨ decision = .warn) (h : applyDecision data s decision = .ok t) :
    data.sourceRef ∉ s.ledger.map CampaignSpendLedger.sourceRef ∧
      t = { s with ledger := s.ledger ++ [ledgerEntry s.campaign data] } := by
  rcases hdecision with rfl | rfl
  all_goals
    obtain ⟨_, hnew, h⟩ := bind_ok h
    cases h
    exact ⟨require_ok hnew, rfl⟩

theorem spend_ends (s : CampaignBooks) (data : SpendRecordCreate) (call : SpendCall) :
    SpendEnd s data call (stepCampaign s (.spend data call)) := by
  simp only [stepCampaign]
  cases hrun : recordCampaignSpend call data s with
  | error e => exact .unchanged
  | ok answer =>
    obtain ⟨result, t⟩ := answer
    obtain ⟨hlock, haccepted, limit, hlimit, happly⟩ := recordCampaignSpend_ok hrun
    by_cases hcommits : call.commits = true
    · simp only [CampaignBooks.answer, Except.map, hcommits, if_true]
      by_cases hwithin : spentOf s.ledger data.category data.currency + data.amount ≤ limit
      · rw [evaluateBudget_within hwithin] at happly
        obtain ⟨hnew, rfl⟩ := applyDecision_recorded (.inl rfl) happly
        exact .recorded limit hlimit (.inl hwithin) hnew
      · have hexceeds := Nat.lt_of_not_le hwithin
        rw [evaluateBudget_exceeding hexceeds] at happly
        cases henforcement : s.campaign.budgetEnforcement with
        | warn =>
          rw [henforcement] at happly
          obtain ⟨hnew, rfl⟩ := applyDecision_recorded (.inr rfl) happly
          exact .recorded limit hlimit (.inr henforcement) hnew
        | block =>
          rw [henforcement] at happly
          cases happly
          exact .unchanged
        | pause =>
          rw [henforcement] at happly
          have ht : t = s.paused := (Except.ok.inj happly).symm
          subst ht
          by_cases hstatus : s.campaign.status = .paused
          · rw [paused_eq_self hstatus]
            exact .unchanged
          · exact .paused ⟨hlock, henforcement, hstatus, ⟨limit, hlimit, hexceeds⟩, haccepted, hcommits⟩
    · simp only [CampaignBooks.answer, Except.map, hcommits]
      exact .unchanged

theorem step_of_not_pauses (hrecorded : Recorded s data) (h : ¬Pauses s data call) :
    stepCampaign s (.spend data call) = s := by
  have hend := spend_ends s data call
  generalize stepCampaign s (.spend data call) = t at hend ⊢
  cases hend with
  | unchanged => rfl
  | recorded limit hlimit hwithin hnew =>
    obtain ⟨entry, hentry, hsource, -⟩ := hrecorded
    exact absurd (List.mem_map.mpr ⟨entry, hentry, hsource⟩) hnew
  | paused hpauses => exact absurd hpauses h

theorem replay_unchanged_iff (hrecorded : Recorded s data) :
    stepCampaign s (.spend data call) = s ↔ ¬Pauses s data call := by
  constructor
  · intro h hpauses
    rw [step_pauses hpauses] at h
    exact paused_ne_self hpauses.status h
  · exact step_of_not_pauses hrecorded

/-- The sum up to each entry is within the limit that was in force for the entry, unless the
enforcement was to warn. -/
def WithinLimits (s : CampaignBooks) : Prop :=
  ∀ before entry after, s.ledger = before ++ entry :: after → entry.enforcement ≠ .warn →
    ∀ limit, entry.limit = some limit → entry.currency = limit.currency ∧
        spentOf (before ++ [entry]) entry.category entry.currency ≤ limit.amount

theorem spentOf_concat (ledger : List CampaignSpendLedger) (entry : CampaignSpendLedger) :
    spentOf (ledger ++ [entry]) entry.category entry.currency =
      spentOf ledger entry.category entry.currency + entry.amount := by
  simp [spentOf]

theorem limitOf_ok {limits : Option BudgetLimits} {category : BudgetCategory} {currency : String}
    {allowed : Nat} {limit : BudgetLimit} (h : limitOf limits category currency = .ok allowed)
    (hlimit : limits.bind (·.get category) = some limit) :
    currency = limit.currency ∧ allowed = limit.amount := by
  obtain ⟨known, rfl, hget⟩ := Option.bind_eq_some_iff.mp hlimit
  simp only [limitOf, hget] at h
  by_cases hcurrency : limit.currency = currency
  · simp only [hcurrency, ne_eq, not_true_eq_false, if_false] at h
    exact ⟨hcurrency.symm, (Except.ok.inj h).symm⟩
  · simp [hcurrency] at h

theorem withinLimits_recorded (hs : WithinLimits s)
    (hlimit : limitOf s.campaign.budgetLimits data.category data.currency = .ok limit)
    (hwithin : spentOf s.ledger data.category data.currency + data.amount ≤ limit ∨
      s.campaign.budgetEnforcement = .warn) :
    WithinLimits { s with ledger := s.ledger ++ [ledgerEntry s.campaign data] } := by
  intro before entry after hsplit henforcement cap hcap
  rcases List.eq_nil_or_concat after with rfl | ⟨rest, last, rfl⟩
  · obtain ⟨rfl, hentry⟩ := List.append_inj' hsplit rfl
    have hentry : ledgerEntry s.campaign data = entry := by simpa using hentry
    subst hentry
    obtain ⟨hcurrency, rfl⟩ := limitOf_ok hlimit hcap
    refine ⟨hcurrency, ?_⟩
    rw [spentOf_concat]
    exact hwithin.resolve_right henforcement
  · have hold : s.ledger = before ++ entry :: rest := by
      have hconcat : s.ledger ++ [ledgerEntry s.campaign data] =
          (before ++ entry :: rest) ++ [last] := by simpa using hsplit
      exact (List.append_inj' hconcat rfl).1
    exact hs before entry rest hold henforcement cap hcap

theorem step_update_ledger (s : CampaignBooks) (data : CampaignUpdate) (call : SpendCall) :
    (stepCampaign s (.update data call)).ledger = s.ledger := by
  simp only [stepCampaign]
  cases hrun : updateCampaign call data s with
  | error e => rfl
  | ok t =>
    obtain ⟨_, hlock, h⟩ := bind_ok hrun
    obtain ⟨_, haccepted, h⟩ := bind_ok h
    cases h
    cases hcommits : call.commits <;> simp [CampaignBooks.answer, hcommits]

theorem withinLimits_step (s : CampaignBooks) (action : CampaignAction) (hs : WithinLimits s) :
    WithinLimits (stepCampaign s action) := by
  cases action with
  | update data call =>
    intro before entry after hsplit
    rw [step_update_ledger] at hsplit
    exact hs before entry after hsplit
  | spend data call =>
    have hend := spend_ends s data call
    generalize stepCampaign s (.spend data call) = t at hend ⊢
    cases hend with
    | unchanged => exact hs
    | recorded limit hlimit hwithin hnew => exact withinLimits_recorded hs hlimit hwithin
    | paused hpauses => exact hs

theorem withinLimits_created (h : Created s) : WithinLimits s := by
  intro before entry after hsplit
  rw [h.1] at hsplit
  simp at hsplit

/-- The sums stay within the limits, and a spend that is recorded already changes nothing exactly
when it does not pause the campaign. -/
theorem replay_iff (hs : Reachable stepCampaign Created s) :
    WithinLimits s ∧ ∀ data call, Recorded s data →
      (stepCampaign s (.spend data call) = s ↔ ¬Pauses s data call) := by
  refine ⟨?_, fun data call hrecorded => replay_unchanged_iff hrecorded⟩
  exact invariant_reachable stepCampaign (I := WithinLimits)
    (fun s hs => withinLimits_created hs) withinLimits_step hs

end Spends

def CampaignAction.expected : CampaignAction → Nat
  | .update data _ => data.expectedLockVersion
  | .spend data _ => data.expectedCampaignLockVersion

/-- What is left of the books later: the entries stay, and a changed campaign has a newer version. -/
structure Follows (s t : CampaignBooks) : Prop where
  ledger : s.ledger <+: t.ledger
  campaign : t.campaign = s.campaign ∨ s.campaign.lockVersion < t.campaign.lockVersion

theorem Follows.refl (s : CampaignBooks) : Follows s s := ⟨List.prefix_rfl, .inl rfl⟩

theorem Follows.trans {s t u : CampaignBooks} (hst : Follows s t) (htu : Follows t u) : Follows s u := by
  refine ⟨hst.ledger.trans htu.ledger, ?_⟩
  rcases hst.campaign with hsame | hnewer
  · rw [← hsame]
    exact htu.campaign
  · rcases htu.campaign with hsame | hnewest
    · exact .inr (hsame ▸ hnewer)
    · exact .inr (Nat.lt_trans hnewer hnewest)

theorem written_follows (old new : Campaign) :
    old.written new = old ∨ old.lockVersion < (old.written new).lockVersion := by
  by_cases h : new = old
  · exact .inl (by simp [Campaign.written, h])
  · exact .inr (by simp [Campaign.written, h])

theorem step_follows (s : CampaignBooks) (action : CampaignAction) : Follows s (stepCampaign s action) := by
  cases action with
  | update data call =>
    refine ⟨(step_update_ledger s data call).symm ▸ List.prefix_rfl, ?_⟩
    simp only [stepCampaign]
    cases hrun : updateCampaign call data s with
    | error e => exact .inl rfl
    | ok t =>
      obtain ⟨_, -, h⟩ := bind_ok hrun
      obtain ⟨_, -, h⟩ := bind_ok h
      cases h
      cases hcommits : call.commits
      · simp [CampaignBooks.answer, hcommits]
      · simpa [CampaignBooks.answer, hcommits] using written_follows _ _
  | spend data call =>
    have hend := spend_ends s data call
    generalize stepCampaign s (.spend data call) = t at hend ⊢
    cases hend with
    | unchanged => exact .refl s
    | recorded limit hlimit hwithin hnew => exact ⟨List.prefix_append _ _, .inl rfl⟩
    | paused hpauses => exact ⟨List.prefix_rfl, written_follows _ _⟩

theorem step_of_stale {s : CampaignBooks} {action : CampaignAction}
    (h : action.expected ≠ s.campaign.lockVersion) : stepCampaign s action = s := by
  cases action with
  | update data call =>
    simp only [stepCampaign]
    cases hrun : updateCampaign call data s with
    | error e => rfl
    | ok t =>
      obtain ⟨_, hlock, -⟩ := bind_ok hrun
      exact absurd (require_ok hlock) h
  | spend data call =>
    simp only [stepCampaign]
    cases hrun : recordCampaignSpend call data s with
    | error e => rfl
    | ok answer => exact absurd (recordCampaignSpend_ok hrun).1 h

/-- A source reference is in the ledger once. -/
def SourcesOnce (s : CampaignBooks) : Prop := (s.ledger.map CampaignSpendLedger.sourceRef).Nodup

theorem sourcesOnce_step (s : CampaignBooks) (action : CampaignAction) (hs : SourcesOnce s) :
    SourcesOnce (stepCampaign s action) := by
  cases action with
  | update data call =>
    unfold SourcesOnce
    rw [step_update_ledger]
    exact hs
  | spend data call =>
    have hend := spend_ends s data call
    generalize stepCampaign s (.spend data call) = t at hend ⊢
    cases hend with
    | unchanged => exact hs
    | recorded limit hlimit hwithin hnew =>
      unfold SourcesOnce
      rw [List.map_append]
      refine List.nodup_append.mpr ⟨hs, by simp, ?_⟩
      rintro source hsource other hother rfl
      have hother : source = data.sourceRef := List.mem_singleton.mp hother
      exact hnew (hother ▸ hsource)
    | paused hpauses => exact hs

/-- Nothing recorded is lost or recorded twice, and a request that was written against a campaign
which has changed since then changes nothing. -/
theorem no_lost_update {s : CampaignBooks} (hs : Reachable stepCampaign Created s)
    (actions : List CampaignAction) :
    SourcesOnce (run stepCampaign s actions) ∧ s.ledger <+: (run stepCampaign s actions).ledger ∧
      ∀ action : CampaignAction, action.expected = s.campaign.lockVersion →
        (run stepCampaign s actions).campaign ≠ s.campaign →
        stepCampaign (run stepCampaign s actions) action = run stepCampaign s actions := by
  have hfollows := relates_run stepCampaign .refl (fun _ _ _ => .trans) step_follows s actions
  have honce : SourcesOnce s := by
    refine invariant_reachable stepCampaign (fun s hs => ?_) sourcesOnce_step hs
    unfold SourcesOnce
    rw [hs.1]
    exact List.nodup_nil
  refine ⟨invariant_run stepCampaign sourcesOnce_step honce actions, hfollows.ledger, ?_⟩
  intro action hexpected hchanged
  have hnewer := hfollows.campaign.resolve_left hchanged
  exact step_of_stale (by omega)

def launch : CampaignBooks where
  campaign := {
    budgetLimits := some { ai := some ⟨10_0000, "KRW"⟩ }
    budgetEnforcement := .pause
    rest := "" }

def firstSpend : SpendRecordCreate where
  expectedCampaignLockVersion := 1
  category := .ai
  amount := 7_0000
  currency := "KRW"
  sourceRef := "invoice-1"
  details := "\x7b\x7d"

theorem launch_created : Created launch := ⟨rfl, rfl, rfl⟩

def afterSpend : CampaignBooks := run stepCampaign launch [.spend firstSpend {}]

theorem afterSpend_recorded : Recorded afterSpend firstSpend :=
  ⟨ledgerEntry launch.campaign firstSpend, by decide, rfl, rfl, rfl, rfl⟩

theorem replay_iff_sample : WithinLimits afterSpend ∧ ∀ data call, Recorded afterSpend data →
      (stepCampaign afterSpend (.spend data call) = afterSpend ↔ ¬Pauses afterSpend data call) :=
  replay_iff ⟨launch, [.spend firstSpend {}], launch_created, rfl⟩

/-- The campaign is archived before the spend arrives. -/
theorem no_lost_update_sample :
    let later := run stepCampaign launch [.update { expectedLockVersion := 1, status := some .archived } {}]
    later.ledger = [] ∧ stepCampaign later (.spend firstSpend {}) = later := by
  obtain ⟨_, _, hstale⟩ := no_lost_update ⟨launch, [], launch_created, rfl⟩
    [.update { expectedLockVersion := 1, status := some .archived } {}]
  exact ⟨rfl, hstale (.spend firstSpend {}) rfl (by decide)⟩

/-- Recorded within the limit, the same spend is beyond it the second time. -/
theorem replay_pauses : Reachable stepCampaign Created afterSpend ∧ Recorded afterSpend firstSpend ∧
      (stepCampaign afterSpend (.spend firstSpend {})).campaign.status = .paused ∧
      stepCampaign afterSpend (.spend firstSpend {}) ≠ afterSpend :=
  ⟨⟨launch, [.spend firstSpend {}], launch_created, rfl⟩, afterSpend_recorded, by decide, by decide⟩

end BlogOps.CampaignSpend
