import BlogOps.ConfigApproval

/-!
# Bounds of the quality score

The total lies between 0 and 100, close to the exact weighted mean.  Higher component scores
never lower a figure of the breakdown, and fail no threshold that was met before.
-/

namespace BlogOps.Quality

open List

variable {x : ℚ} {scores lower higher : QualityComponent → ℚ}

theorem quantize_error (hx : 0 ≤ x) : |quantize x - x| ≤ 1 / 200 := by
  unfold quantize
  rw [if_pos hx]
  have hle := Int.floor_le (x * 100 + 1 / 2)
  have hlt := Int.lt_floor_add_one (x * 100 + 1 / 2)
  rw [abs_le]
  constructor <;> linarith

/-- Whole hundredths, as scores are kept. -/
def Hundredths (value : ℚ) : Prop := ∃ n : ℕ, value = n / 100

theorem hundredths_quantize (hx : 0 ≤ x) : Hundredths (quantize x) := by
  unfold quantize
  rw [if_pos hx]
  have hfloor : 0 ≤ ⌊x * 100 + 1 / 2⌋ := Int.floor_nonneg.mpr (by linarith)
  obtain ⟨n, hn⟩ := Int.eq_ofNat_of_zero_le hfloor
  refine ⟨n, ?_⟩
  rw [hn]
  simp

theorem hundredths_sum {values : List ℚ} (h : ∀ value ∈ values, Hundredths value) :
    Hundredths values.sum := by
  induction values with
  | nil => exact ⟨0, by simp⟩
  | cons value rest ih =>
    obtain ⟨n, hn⟩ := h value mem_cons_self
    obtain ⟨m, hm⟩ := ih fun other hother => h other (mem_cons_of_mem _ hother)
    refine ⟨n + m, ?_⟩
    rw [sum_cons, hn, hm, Nat.cast_add, add_div]

theorem quantize_of_hundredths (h : Hundredths x) : quantize x = x := by
  obtain ⟨n, rfl⟩ := h
  exact quantize_hundredths n

/-- The scores that the calculation accepts. -/
def ScoresValid (scores : QualityComponent → ℚ) : Prop :=
  ∀ component, 0 ≤ scores component ∧ scores component ≤ 100

def contribution (scores : QualityComponent → ℚ) (component : QualityComponent) : ℚ :=
  quantize (scores component * qualityComponentWeights component)

/-- The weighted mean without rounding. -/
def weightedMean (scores : QualityComponent → ℚ) : ℚ :=
  (QualityComponent.all.map fun component =>
    scores component * qualityComponentWeights component).sum

theorem weights_nonneg (component : QualityComponent) : 0 ≤ qualityComponentWeights component := by
  cases component <;> norm_num [qualityComponentWeights]

theorem share_nonneg (h : ScoresValid scores) (component : QualityComponent) :
    0 ≤ scores component * qualityComponentWeights component :=
  mul_nonneg (h component).1 (weights_nonneg component)

/-- The contributions are whole hundredths already, so the total is not rounded again. -/
theorem calculateQualityScore_valid (h : ScoresValid scores) : calculateQualityScore scores = .ok {
      total := (QualityComponent.all.map (contribution scores)).sum
      componentScores := fun component => quantize (scores component)
      weightedContributions := contribution scores } := by
  have hnone : QualityComponent.all.find? (fun component =>
      scores component < 0 || 100 < scores component) = none := by
    rw [find?_eq_none]
    intro component _
    simpa using h component
  have hsum : Hundredths (QualityComponent.all.map (contribution scores)).sum := by
    refine hundredths_sum fun value hvalue => ?_
    obtain ⟨component, _, rfl⟩ := mem_map.mp hvalue
    exact hundredths_quantize (share_nonneg h component)
  unfold calculateQualityScore
  rw [hnone]
  exact congrArg (fun total => Except.ok (QualityScoreBreakdown.mk total
    (fun component => quantize (scores component)) (contribution scores) "default-1"))
    (quantize_of_hundredths hsum)

section

variable (h : ScoresValid lower) (hraise : ∀ component, lower component ≤ higher component)

include h hraise

theorem contribution_mono (component : QualityComponent) :
    contribution lower component ≤ contribution higher component :=
  quantize_mono (share_nonneg h component)
    (mul_le_mul_of_nonneg_right (hraise component) (weights_nonneg component))

theorem total_mono : (QualityComponent.all.map (contribution lower)).sum ≤
      (QualityComponent.all.map (contribution higher)).sum :=
  sum_le_sum fun component _ => contribution_mono h hraise component

end

theorem total_bounds (h : ScoresValid scores) : 0 ≤ (QualityComponent.all.map (contribution scores)).sum ∧
      (QualityComponent.all.map (contribution scores)).sum ≤ 100 := by
  have hnone : (QualityComponent.all.map (contribution fun _ => 0)).sum = 0 := by
    have hzero : quantize 0 = 0 := by simpa using quantize_hundredths 0
    simp [contribution, QualityComponent.all, hzero]
  have hfull : (QualityComponent.all.map (contribution fun _ => 100)).sum = 100 := by
    obtain ⟨score, hscore, htotal, -⟩ := calculateQualityScore_full
    rw [calculateQualityScore_valid fun _ => ⟨by norm_num, le_rfl⟩] at hscore
    cases hscore
    exact htotal
  refine ⟨hnone ▸ total_mono (fun _ => ⟨le_rfl, by norm_num⟩) fun component => (h component).1, ?_⟩
  exact hfull ▸ total_mono h fun component => (h component).2

/-- Seven contributions, each at most half a hundredth off. -/
theorem total_error (h : ScoresValid scores) :
    |(QualityComponent.all.map (contribution scores)).sum - weightedMean scores| ≤ 35 / 1000 := by
  have hbelow (component : QualityComponent) :
      -(1 / 200) ≤ contribution scores component -
        scores component * qualityComponentWeights component :=
    (abs_le.mp (quantize_error (share_nonneg h component))).1
  have habove (component : QualityComponent) :
      contribution scores component - scores component * qualityComponentWeights component ≤ 1 / 200 :=
    (abs_le.mp (quantize_error (share_nonneg h component))).2
  simp only [weightedMean, QualityComponent.all, map_cons, map_nil, sum_cons, sum_nil]
  rw [abs_le]
  constructor
  · linarith [hbelow .accuracy, hbelow .usefulness, hbelow .originality, hbelow .searchIntent,
      hbelow .readability, hbelow .brandFit, hbelow .compliance]
  · linarith [habove .accuracy, habove .usefulness, habove .originality, habove .searchIntent,
      habove .readability, habove .brandFit, habove .compliance]

/-- No figure of the second breakdown is lower. -/
structure NotLower (score raised : QualityScoreBreakdown) : Prop where
  total : score.total ≤ raised.total
  components : ∀ component, score.componentScores component ≤ raised.componentScores component
  contributions : ∀ component, score.weightedContributions component ≤ raised.weightedContributions component

variable {score raised : QualityScoreBreakdown} {minimums : List (QualityComponent × ℚ)}

theorem evaluateComponents_shrinks (hraise : NotLower score raised)
    {failures : List FailedThreshold} (h : evaluateComponents score minimums = .ok failures) :
    ∃ fewer, evaluateComponents raised minimums = .ok fewer ∧
      (fewer.map FailedThreshold.threshold).Sublist (failures.map FailedThreshold.threshold) := by
  induction minimums generalizing failures with
  | nil =>
    cases h
    exact ⟨[], rfl, List.Sublist.refl _⟩
  | cons item rest ih =>
    obtain ⟨component, minimum⟩ := item
    obtain ⟨⟨hlow, hhigh⟩, others, hrest, rfl⟩ := evaluateComponents_cons h
    obtain ⟨fewer, hfewer, hsub⟩ := ih hrest
    have hle := hraise.components component
    rw [evaluateComponents, if_neg (not_or.mpr ⟨not_lt.mpr hlow, not_lt.mpr hhigh⟩), hfewer]
    refine ⟨_, rfl, ?_⟩
    by_cases hraised : raised.componentScores component < minimum
    · rw [if_pos hraised, if_pos (hle.trans_lt hraised)]
      exact hsub.cons_cons _
    · rw [if_neg hraised]
      split
      · exact hsub.trans (sublist_cons_self _ _)
      · exact hsub

theorem pass_of_shrinks {policy : PolicyResolution} {before after : List FailedThreshold}
    (hsub : (after.map FailedThreshold.threshold).Sublist (before.map FailedThreshold.threshold))
    (hpass : (if policy.blocked then AssessmentDecision.blocked
      else if before.isEmpty then .pass else .needsRevision) = .pass) :
    (if policy.blocked then AssessmentDecision.blocked
      else if after.isEmpty then .pass else .needsRevision) = .pass := by
  by_cases hblocked : policy.blocked = true
  · simp [hblocked] at hpass
  · rw [if_neg hblocked] at hpass ⊢
    cases before with
    | nil =>
      rw [map_nil, sublist_nil, map_eq_nil_iff] at hsub
      rw [hsub]
      rfl
    | cons failure rest => cases hpass

theorem evaluateQualityGate_shrinks (hraise : NotLower score raised) {minimumTotalScore : ℚ}
    {policy : PolicyResolution} {gate : QualityGateResult}
    (h : evaluateQualityGate score minimumTotalScore minimums policy = .ok gate) :
    ∃ after, evaluateQualityGate raised minimumTotalScore minimums policy = .ok after ∧
      (gate.decision = .pass → after.decision = .pass) ∧
      (after.failedThresholds.map FailedThreshold.threshold).Sublist
        (gate.failedThresholds.map FailedThreshold.threshold) := by
  obtain ⟨failures, hfailures, h⟩ := bind_ok h
  obtain ⟨fewer, hfewer, hsub⟩ := evaluateComponents_shrinks hraise hfailures
  cases h
  unfold evaluateQualityGate
  rw [bind_of_ok hfewer]
  refine ⟨_, rfl, ?_⟩
  dsimp only
  have hshrinks : ((if raised.total < minimumTotalScore then
        (⟨.total, raised.total, minimumTotalScore⟩ : FailedThreshold) :: fewer
      else fewer).map FailedThreshold.threshold).Sublist
        ((if score.total < minimumTotalScore then
          (⟨.total, score.total, minimumTotalScore⟩ : FailedThreshold) :: failures
        else failures).map FailedThreshold.threshold) := by
    by_cases hbelow : raised.total < minimumTotalScore
    · rw [if_pos hbelow, if_pos (hraise.total.trans_lt hbelow)]
      exact hsub.cons_cons _
    · rw [if_neg hbelow]
      split
      · exact hsub.trans (sublist_cons_self _ _)
      · exact hsub
  exact ⟨pass_of_shrinks hshrinks, hshrinks⟩

/-- The calculation accepts all scores from 0 to 100; its total keeps their bounds and is within
0.035 of the weighted mean.  No score that rises lowers a figure, undoes a pass or fails a
further threshold. -/
theorem quality_score_monotone (hlower : ScoresValid lower) (hhigher : ScoresValid higher)
    (hraise : ∀ component, lower component ≤ higher component) :
    ∃ score raised, calculateQualityScore lower = .ok score ∧
      calculateQualityScore higher = .ok raised ∧ (0 ≤ score.total ∧ score.total ≤ 100) ∧
      |score.total - weightedMean lower| ≤ 35 / 1000 ∧ NotLower score raised ∧
      ∀ minimumTotalScore minimums policy gate,
        evaluateQualityGate score minimumTotalScore minimums policy = .ok gate →
        ∃ after, evaluateQualityGate raised minimumTotalScore minimums policy = .ok after ∧
          (gate.decision = .pass → after.decision = .pass) ∧
          (after.failedThresholds.map FailedThreshold.threshold).Sublist
            (gate.failedThresholds.map FailedThreshold.threshold) := by
  have hnot : NotLower
      ⟨(QualityComponent.all.map (contribution lower)).sum, fun component =>
        quantize (lower component), contribution lower, "default-1"⟩
      ⟨(QualityComponent.all.map (contribution higher)).sum, fun component =>
        quantize (higher component), contribution higher, "default-1"⟩ :=
    ⟨total_mono hlower hraise, fun component => quantize_mono (hlower component).1
      (hraise component), contribution_mono hlower hraise⟩
  exact ⟨_, _, calculateQualityScore_valid hlower, calculateQualityScore_valid hhigher,
    total_bounds hlower, total_error hlower, hnot,
    fun _ _ _ _ hgate => evaluateQualityGate_shrinks hnot hgate⟩

theorem quality_score_sample : ∃ score raised,
    calculateQualityScore (fun _ => 50) = .ok score ∧
      calculateQualityScore (fun _ => 60) = .ok raised ∧ score.total ≤ raised.total := by
  obtain ⟨score, raised, hscore, hraised, -, -, hnot, -⟩ :=
    @quality_score_monotone (fun _ => 50) (fun _ => 60)
      (fun _ => by norm_num) (fun _ => by norm_num) fun _ => by norm_num
  exact ⟨score, raised, hscore, hraised, hnot.total⟩

end BlogOps.Quality
