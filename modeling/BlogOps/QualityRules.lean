import BlogOps.AppErrors
import Mathlib.Data.List.Dedup
import Mathlib.Data.List.Sort
import Mathlib.Data.Rat.Floor

/-!
# Quality scoring, policy precedence and approval rules

The vocabularies of quality reports and approvals, the weighted score, the
resolution of policy findings, the quality gate and the approval transitions.
Decimals are exact rationals.
-/

namespace BlogOps.Quality

open List

inductive ReportKind where
  | morphology | naturalness | seo | duplication | factCitation | safetyPolicy
deriving DecidableEq, Repr

def ReportKind.all : List ReportKind :=
  [.morphology, .naturalness, .seo, .duplication, .factCitation, .safetyPolicy]

def ReportKind.value : ReportKind → String
  | morphology => "MORPHOLOGY"
  | naturalness => "NATURALNESS"
  | seo => "SEO"
  | duplication => "DUPLICATION"
  | factCitation => "FACT_CITATION"
  | safetyPolicy => "SAFETY_POLICY"

inductive FindingSeverity where
  | info | warn | block
deriving DecidableEq, Repr

inductive PolicyLayer where
  | law | copyright | platform | service | workspace | content
deriving DecidableEq, Repr

def PolicyLayer.value : PolicyLayer → String
  | law => "LAW"
  | copyright => "COPYRIGHT"
  | platform => "PLATFORM"
  | service => "SERVICE"
  | workspace => "WORKSPACE"
  | content => "CONTENT"

inductive PolicyAction where
  | allow | warn | block
deriving DecidableEq, Repr

inductive AssessmentDecision where
  | pass | needsRevision | blocked
deriving DecidableEq, Repr

inductive ApprovalRequestStatus where
  | pending | changesRequested | rejected | approved | expired | invalidated | superseded
deriving DecidableEq, Repr

inductive ApprovalDecisionKind where
  | approve | reject | requestChanges
deriving DecidableEq, Repr

inductive QualityComponent where
  | accuracy | usefulness | originality | searchIntent | readability | brandFit | compliance
deriving DecidableEq, Repr

def QualityComponent.value : QualityComponent → String
  | accuracy => "accuracy"
  | usefulness => "usefulness"
  | originality => "originality"
  | searchIntent => "search_intent"
  | readability => "readability"
  | brandFit => "brand_fit"
  | compliance => "compliance"

/-- The keys of `QUALITY_COMPONENT_WEIGHTS` in their order. -/
def QualityComponent.all : List QualityComponent :=
  [.accuracy, .usefulness, .originality, .searchIntent, .readability, .brandFit, .compliance]

def qualityComponentWeights : QualityComponent → ℚ
  | .accuracy => 25 / 100
  | .usefulness => 20 / 100
  | .originality => 15 / 100
  | .searchIntent => 15 / 100
  | .readability => 10 / 100
  | .brandFit => 10 / 100
  | .compliance => 5 / 100

def policyLayerPriority : PolicyLayer → Nat
  | .law | .copyright => 0
  | .platform => 1
  | .service => 2
  | .workspace => 3
  | .content => 4

def nonOverrideableHardBlockLayers : List PolicyLayer := [.law, .copyright, .platform, .service]

/-- What a call of the quality service raises: `InvalidQualityInput` is a `ValueError` and no
`AppError`. -/
inductive Raised where
  | failure (failure : Failure)
  | invalidQualityInput (text : String)
deriving DecidableEq, Repr

def Raised.app (error : AppError) : Raised := .failure (.app error)

/-- `quantize(Decimal("0.01"), rounding=ROUND_HALF_UP)`: ties go away from zero. -/
def quantize (value : ℚ) : ℚ :=
  if 0 ≤ value then (⌊value * 100 + 1 / 2⌋ : ℚ) / 100 else -((⌊-value * 100 + 1 / 2⌋ : ℚ) / 100)

structure QualityScoreBreakdown where
  total : ℚ
  componentScores : QualityComponent → ℚ
  weightedContributions : QualityComponent → ℚ
  formulaVersion : String := "default-1"

/-- The mapping has exactly the seven components, so the mismatch check has no case. -/
def calculateQualityScore (componentScores : QualityComponent → ℚ) : Except Raised QualityScoreBreakdown :=
  match QualityComponent.all.find? fun component =>
    componentScores component < 0 || 100 < componentScores component with
  | some component =>
    .error (.invalidQualityInput (component.value ++ " must be between 0 and 100"))
  | none =>
    let contributions := fun component =>
      quantize (componentScores component * qualityComponentWeights component)
    .ok {
      total := quantize ((QualityComponent.all.map contributions).sum)
      componentScores := fun component => quantize (componentScores component)
      weightedContributions := contributions }

structure PolicyFinding where
  eventKey : Uuid
  layer : PolicyLayer
  ruleCode : String
  severity : FindingSeverity
  hardBlock : Bool
  overrideAllowed : Bool
deriving DecidableEq, Repr

variable (finding : PolicyFinding)

def PolicyFinding.blocks : Bool := finding.hardBlock || finding.severity = .block

structure PolicyResolution where
  orderedFindings : List PolicyFinding
  blockingEventKeys : List Uuid
  nonOverrideableEventKeys : List Uuid
  overrideableEventKeys : List Uuid
deriving DecidableEq, Repr

def PolicyResolution.blocked (resolution : PolicyResolution) : Bool :=
  !resolution.blockingEventKeys.isEmpty

def normalizeFinding : PolicyFinding :=
  if finding.blocks && finding.layer ∈ nonOverrideableHardBlockLayers then
    { finding with overrideAllowed := false }
  else finding

/-- The sort key: layer priority, hard blocks first, rule code, event key. -/
def findingPrecedes (first second : PolicyFinding) : Bool :=
  if policyLayerPriority first.layer ≠ policyLayerPriority second.layer then
    policyLayerPriority first.layer < policyLayerPriority second.layer
  else if first.hardBlock ≠ second.hardBlock then first.hardBlock
  else if first.ruleCode ≠ second.ruleCode then first.ruleCode < second.ruleCode
  else first.eventKey ≤ second.eventKey

def resolvePolicyFindings (findings : List PolicyFinding) (overridden : List Uuid) : PolicyResolution :=
  let ordered := (findings.map normalizeFinding).insertionSort (findingPrecedes · ·)
  let keys := fun select : PolicyFinding → Bool => (ordered.filter select).map (·.eventKey)
  { orderedFindings := ordered
    blockingEventKeys := keys fun item =>
      item.blocks && (!item.overrideAllowed || item.eventKey ∉ overridden)
    nonOverrideableEventKeys := keys fun item => item.blocks && !item.overrideAllowed
    overrideableEventKeys := keys fun item => item.blocks && item.overrideAllowed }

inductive Threshold where
  | total
  | component (component : QualityComponent)
deriving DecidableEq, Repr

/-- A missed threshold; its text is `f"{score} < {minimum}"`. -/
structure FailedThreshold where
  threshold : Threshold
  score : ℚ
  minimum : ℚ
deriving DecidableEq, Repr

structure QualityGateResult where
  decision : AssessmentDecision
  failedThresholds : List FailedThreshold
deriving DecidableEq, Repr

def evaluateComponents (score : QualityScoreBreakdown) :
    List (QualityComponent × ℚ) → Except Raised (List FailedThreshold)
  | [] => .ok []
  | (component, minimum) :: rest =>
    if minimum < 0 ∨ 100 < minimum then
      .error (.invalidQualityInput ("invalid threshold for " ++ component.value))
    else do
      let failures ← evaluateComponents score rest
      .ok (if score.componentScores component < minimum then
        ⟨.component component, score.componentScores component, minimum⟩ :: failures
      else failures)

def evaluateQualityGate (score : QualityScoreBreakdown) (minimumTotalScore : ℚ)
    (minimumComponentScores : List (QualityComponent × ℚ)) (policy : PolicyResolution) :
    Except Raised QualityGateResult := do
  let components ← evaluateComponents score minimumComponentScores
  let failures :=
    if score.total < minimumTotalScore then ⟨.total, score.total, minimumTotalScore⟩ :: components
    else components
  .ok {
    decision := if policy.blocked then .blocked else if failures.isEmpty then .pass else .needsRevision
    failedThresholds := failures }

def approvalTransitions : ApprovalRequestStatus → ApprovalDecisionKind → Option ApprovalRequestStatus
  | .pending, .requestChanges => some .changesRequested
  | .pending, .reject => some .rejected
  | .pending, .approve => some .pending
  | _, _ => none

/-- `none` is a raised `InvalidApprovalTransition`. -/
def transitionApproval (current : ApprovalRequestStatus) (decision : ApprovalDecisionKind)
    (stageQuorumReached finalStage : Bool) : Option ApprovalRequestStatus := do
  let base ← approvalTransitions current decision
  if decision = .approve then
    some (if stageQuorumReached && finalStage then .approved else .pending)
  else some base

/-- `len(prior | {actor}) >= required`. -/
def approvalQuorumReached (priorApproverIds : List Uuid) (actorId : Uuid)
    (requiredApprovals : Nat) : Except Raised Bool :=
  if requiredApprovals < 1 then
    .error (.invalidQualityInput "required approvals must be positive")
  else .ok (requiredApprovals ≤ (actorId :: priorApproverIds).dedup.length)

def exactContentVersionMatches (expectedVersionId : Uuid) (expectedContentHash : String)
    (actualVersionId : Uuid) (actualContentHash : String) : Bool :=
  expectedVersionId = actualVersionId && expectedContentHash = actualContentHash

theorem quantize_mono {x y : ℚ} (hx : 0 ≤ x) (hxy : x ≤ y) : quantize x ≤ quantize y := by
  unfold quantize
  rw [if_pos hx, if_pos (hx.trans hxy)]
  have hfloor : ⌊x * 100 + 1 / 2⌋ ≤ ⌊y * 100 + 1 / 2⌋ := Int.floor_le_floor (by linarith)
  have hcast : (⌊x * 100 + 1 / 2⌋ : ℚ) ≤ ⌊y * 100 + 1 / 2⌋ := by exact_mod_cast hfloor
  linarith

/-- The quantized value of a number with two decimals is that number. -/
theorem quantize_hundredths (n : ℕ) : quantize (n / 100) = n / 100 := by
  unfold quantize
  rw [if_pos (by positivity)]
  have hfloor : ⌊(n : ℚ) / 100 * 100 + 1 / 2⌋ = n := by
    rw [Int.floor_eq_iff]
    push_cast
    constructor <;> linarith
  rw [hfloor]
  push_cast
  rfl

theorem blocks_normalizeFinding : (normalizeFinding finding).blocks = finding.blocks := by
  unfold normalizeFinding
  split <;> rfl

theorem eventKey_normalizeFinding : (normalizeFinding finding).eventKey = finding.eventKey := by
  unfold normalizeFinding
  split <;> rfl

section Resolution

variable {findings : List PolicyFinding} {overridden : List Uuid} {key : Uuid}

/-- The event keys a selection of the normalized findings lists. -/
theorem mem_keys (select : PolicyFinding → Bool) :
    key ∈ (((findings.map normalizeFinding).insertionSort (findingPrecedes · ·)).filter select).map
        (·.eventKey) ↔
      ∃ finding ∈ findings, select (normalizeFinding finding) = true ∧
        finding.eventKey = key := by
  simp only [mem_map, mem_filter, (perm_insertionSort (findingPrecedes · ·) _).mem_iff]
  constructor
  · rintro ⟨_, ⟨⟨finding, hfinding, rfl⟩, hselect⟩, rfl⟩
    exact ⟨finding, hfinding, hselect, (eventKey_normalizeFinding finding).symm⟩
  · rintro ⟨finding, hfinding, hselect, rfl⟩
    exact ⟨_, ⟨⟨finding, hfinding, rfl⟩, hselect⟩, eventKey_normalizeFinding finding⟩

theorem mem_blockingEventKeys : key ∈ (resolvePolicyFindings findings overridden).blockingEventKeys ↔
      ∃ finding ∈ findings, finding.blocks = true ∧ finding.eventKey = key ∧
        ((normalizeFinding finding).overrideAllowed = false ∨ key ∉ overridden) := by
  refine (mem_keys _).trans ?_
  simp only [Bool.and_eq_true, Bool.or_eq_true, Bool.not_eq_true', decide_eq_true_eq,
    blocks_normalizeFinding, eventKey_normalizeFinding]
  constructor
  · rintro ⟨finding, hfinding, ⟨hblocks, hopen⟩, rfl⟩
    exact ⟨finding, hfinding, hblocks, rfl, hopen⟩
  · rintro ⟨finding, hfinding, hblocks, rfl, hopen⟩
    exact ⟨finding, hfinding, ⟨hblocks, hopen⟩, rfl⟩

theorem mem_nonOverrideableEventKeys :
    key ∈ (resolvePolicyFindings findings overridden).nonOverrideableEventKeys ↔
      ∃ finding ∈ findings, finding.blocks = true ∧ finding.eventKey = key ∧
        (normalizeFinding finding).overrideAllowed = false := by
  refine (mem_keys _).trans ?_
  simp only [Bool.and_eq_true, Bool.not_eq_true', blocks_normalizeFinding]
  constructor
  · rintro ⟨finding, hfinding, ⟨hblocks, hclosed⟩, rfl⟩
    exact ⟨finding, hfinding, hblocks, rfl, hclosed⟩
  · rintro ⟨finding, hfinding, hblocks, rfl, hclosed⟩
    exact ⟨finding, hfinding, ⟨hblocks, hclosed⟩, rfl⟩

theorem overrideAllowed_normalizeFinding {finding : PolicyFinding} (hblocks : finding.blocks = true) :
    (normalizeFinding finding).overrideAllowed = true ↔
      finding.overrideAllowed = true ∧ finding.layer ∉ nonOverrideableHardBlockLayers := by
  unfold normalizeFinding
  by_cases hlayer : finding.layer ∈ nonOverrideableHardBlockLayers <;> simp [hblocks, hlayer]

theorem blocked_eq_false : (resolvePolicyFindings findings overridden).blocked = false ↔
      (resolvePolicyFindings findings overridden).blockingEventKeys = [] := by
  simp [PolicyResolution.blocked]

end Resolution

section Gate

variable {score : QualityScoreBreakdown} {minimums : List (QualityComponent × ℚ)}

theorem evaluateComponents_ok (score : QualityScoreBreakdown)
    (hrange : ∀ item ∈ minimums, 0 ≤ item.2 ∧ item.2 ≤ 100) :
    ∃ failures, evaluateComponents score minimums = .ok failures := by
  induction minimums with
  | nil => exact ⟨[], rfl⟩
  | cons item rest ih =>
    obtain ⟨component, minimum⟩ := item
    obtain ⟨failures, heq⟩ := ih fun other hother => hrange other (mem_cons_of_mem _ hother)
    have hin : 0 ≤ minimum ∧ minimum ≤ 100 := hrange _ mem_cons_self
    have hout : ¬ (minimum < 0 ∨ 100 < minimum) := not_or.mpr ⟨not_lt.mpr hin.1, not_lt.mpr hin.2⟩
    rw [evaluateComponents, if_neg hout, heq]
    exact ⟨_, rfl⟩

variable {failures : List FailedThreshold}

theorem evaluateComponents_cons {component : QualityComponent} {minimum : ℚ}
    (h : evaluateComponents score ((component, minimum) :: minimums) = .ok failures) :
    (0 ≤ minimum ∧ minimum ≤ 100) ∧ ∃ others, evaluateComponents score minimums = .ok others ∧
      failures = if score.componentScores component < minimum then
          ⟨.component component, score.componentScores component, minimum⟩ :: others
        else others := by
  rw [evaluateComponents] at h
  by_cases hout : minimum < 0 ∨ 100 < minimum
  · rw [if_pos hout] at h
    cases h
  · rw [if_neg hout] at h
    obtain ⟨others, hrest, hfailures⟩ := bind_ok h
    rw [not_or, not_lt, not_lt] at hout
    exact ⟨hout, others, hrest, (Except.ok.inj hfailures).symm⟩

section

variable (h : evaluateComponents score minimums = .ok failures)

include h

theorem evaluateComponents_eq_nil (hmet : ∀ item ∈ minimums, item.2 ≤ score.componentScores item.1) :
    failures = [] := by
  induction minimums generalizing failures with
  | nil => exact (Except.ok.inj h).symm
  | cons item rest ih =>
    obtain ⟨_, others, hrest, rfl⟩ := evaluateComponents_cons h
    rw [if_neg (not_lt.mpr (hmet _ mem_cons_self))]
    exact ih hrest fun other hother => hmet other (mem_cons_of_mem _ hother)

theorem range_of_evaluateComponents : ∀ item ∈ minimums, 0 ≤ item.2 ∧ item.2 ≤ 100 := by
  induction minimums generalizing failures with
  | nil => simp
  | cons item rest ih =>
    obtain ⟨hin, others, hrest, _⟩ := evaluateComponents_cons h
    exact forall_mem_cons.mpr ⟨hin, ih hrest⟩

theorem evaluateComponents_ne_nil {component : QualityComponent} {minimum : ℚ}
    (hitem : (component, minimum) ∈ minimums) (hbelow : score.componentScores component < minimum) :
    failures ≠ [] := by
  induction minimums generalizing failures with
  | nil => simp at hitem
  | cons item rest ih =>
    obtain ⟨_, others, hrest, rfl⟩ := evaluateComponents_cons h
    rcases mem_cons.mp hitem with rfl | hmem
    · simp [hbelow]
    · have hne := ih hrest hmem
      split
      · simp
      · exact hne

end

end Gate

theorem transitionApproval_eq_approved {current : ApprovalRequestStatus} {decision : ApprovalDecisionKind}
    {quorum final : Bool} : transitionApproval current decision quorum final = some .approved ↔
      current = .pending ∧ decision = .approve ∧ quorum = true ∧ final = true := by
  cases current <;> cases decision <;> cases quorum <;> cases final <;> decide

end BlogOps.Quality
