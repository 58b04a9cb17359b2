import Mathlib.Analysis.SpecialFunctions.Artanh
import Quantbot.L3Research.Experiment

/-!
# The power gate and the detectable effect

`observations_required` and `minimum_detectable_effect` invert one another, over exact reals. The
second halves the sample of an unpaired comparison for every estimand; the first doubles what it
asks for neither a difference of two Sharpes nor the three degrees of freedom of a correlation.

* `power_agrees_iff`: the two agree, and `assess` answers, except on the samples between, and on
  correlations with at most three independent observations an arm.
-/
namespace Quantbot.L3.Power

open Real Experiment
open Promotion (Comparison)

/-- mirrors power.py:134-193, the rounding of the inflation left out -/
structure DependenceAssumptions where
  lagOneAutocorrelation : ℝ := 0
  clusterSize : ℕ := 1
  intraClusterCorrelation : ℝ := 0
  overlapping : Bool := false
  horizonObservations : ℕ := 1
  featureLookbackObservations : Option ℕ := none
  observationsPerYear : ℕ := 252
  lag_range : -1 < lagOneAutocorrelation ∧ lagOneAutocorrelation < 1
  cluster_pos : 1 ≤ clusterSize
  intra_range : 0 ≤ intraClusterCorrelation ∧ intraClusterCorrelation ≤ 1
  horizon_pos : 1 ≤ horizonObservations
  year_pos : 1 ≤ observationsPerYear
  overlap_stated : overlapping = true →
    horizonObservations ≠ 1 ∧ featureLookbackObservations ≠ none

noncomputable def DependenceAssumptions.varianceInflation (d : DependenceAssumptions) : ℝ :=
  (1 + d.lagOneAutocorrelation) / (1 - d.lagOneAutocorrelation) *
    (1 + (d.clusterSize - 1) * d.intraClusterCorrelation) *
    (if d.overlapping then d.horizonObservations else 1 : ℕ)

/-- mirrors power.py:196-212 -/
structure EconomicProfile where
  annualRebalances : ℕ
  expectedAnnualVolatilityBps : ℕ
  roundTripCostBps : ℝ
  volatility_pos : 0 < expectedAnnualVolatilityBps
  cost_nonneg : 0 ≤ roundTripCostBps

def returnLike : List Estimand := [.sharpe, .meanDifference, .crossSectionalSpread]

/-- An accepted specification.
mirrors power.py:215-282 -/
structure EffectSpecification where
  estimand : Estimand
  expected : ℝ
  minimumPractical : ℝ
  nullValue : ℝ := 0
  comparison : Comparison
  dependence : DependenceAssumptions
  economics : Option EconomicProfile := none
  benchmarkSharpe : Option ℝ := none
  benchmarkCorrelation : Option ℝ := none
  expected_gt : nullValue < expected
  practical_gt : nullValue < minimumPractical
  practical_le : minimumPractical ≤ expected
  correlation_range : ∀ r ∈ benchmarkCorrelation, -1 ≤ r ∧ r ≤ 1
  difference : estimand = .sharpe ∧ comparison ≠ .singleSample →
    benchmarkSharpe ≠ none ∧ benchmarkCorrelation ≠ none
  no_difference : ¬ (estimand = .sharpe ∧ comparison ≠ .singleSample) →
    benchmarkSharpe = none ∧ benchmarkCorrelation = none
  proportion : estimand = .hitRate → 0 < nullValue ∧ nullValue < 1 ∧ expected < 1
  null_zero : estimand ≠ .hitRate → nullValue = 0
  coefficient : estimand = .informationCoefficient → expected < 1
  costed : economics ≠ none ↔ estimand ∈ returnLike

namespace EffectSpecification

variable (s : EffectSpecification)

/-- mirrors power.py:318-322 -/
def isSharpeDifference : Prop := s.estimand = .sharpe ∧ s.comparison ≠ .singleSample
deriving Decidable

/-- mirrors power.py:291-315 -/
noncomputable def jobsonKorkieMemmelVariance : Except String ℝ :=
  match s.benchmarkSharpe, s.benchmarkCorrelation with
  | some benchmark, some rho =>
    let candidate := s.expected + benchmark
    .ok (2 * (1 - rho) +
      1 / 2 * (candidate ^ 2 + benchmark ^ 2 - 2 * rho ^ 2 * candidate * benchmark))
  | _, _ => .error "a Sharpe difference needs the benchmark's Sharpe and correlation"

/-- mirrors power.py:325-336 -/
noncomputable def standardisedEffect (effect : ℝ) : ℝ :=
  match s.estimand with
  | .sharpe => effect / √s.dependence.observationsPerYear
  | .meanDifference | .crossSectionalSpread => effect
  | .hitRate => (effect - s.nullValue) / √(s.nullValue * (1 - s.nullValue))
  | .informationCoefficient => artanh effect

/-- mirrors power.py:339-341 -/
def armFactor : ℝ := if s.comparison = .unpaired then 2 else 1

/-- mirrors power.py:344-367 -/
noncomputable def observationsRequired (threshold : ℝ) : Except String ℤ :=
  if s.isSharpeDifference then do
    let variance ← s.jobsonKorkieMemmelVariance
    let years := (threshold / s.expected) ^ 2 * variance
    .ok ⌈years * s.dependence.observationsPerYear * s.dependence.varianceInflation⌉
  else
    let independent := (threshold / s.standardisedEffect s.expected) ^ 2 * s.armFactor +
      if s.estimand = .informationCoefficient then 3 else 0
    .ok ⌈independent * s.dependence.varianceInflation⌉

/-- mirrors power.py:370-399 -/
noncomputable def minimumDetectableEffect (observations : ℕ) (threshold : ℝ) : Except String ℝ :=
  let independent := observations / s.dependence.varianceInflation / s.armFactor
  if observations = 0 then .error "observations must be positive"
  else if s.estimand = .informationCoefficient then
    if independent ≤ 3 then
      .error "an information coefficient needs more than three observations"
    else .ok (tanh (threshold / √(independent - 3)))
  else if s.isSharpeDifference then
    let years := independent / s.dependence.observationsPerYear
    if years ≤ 0 then .error "a Sharpe difference needs at least one year of observations"
    else do
      let variance ← s.jobsonKorkieMemmelVariance
      .ok (threshold * √(variance / years))
  else
    let standardised := threshold / √independent
    .ok (match s.estimand with
      | .sharpe => standardised * √s.dependence.observationsPerYear
      | .hitRate => s.nullValue + standardised * √(s.nullValue * (1 - s.nullValue))
      | _ => standardised)

end EffectSpecification

inductive PowerVerdict | powered | underpowered | uneconomic | overridden

/-- mirrors power.py:409-443, the numbers of the decision -/
structure PowerAssessment where
  verdict : PowerVerdict
  luckThresholdZ : ℝ
  observationsRequired : ℤ
  observationsAvailable : ℕ
  independentObservations : ℝ
  varianceInflation : ℝ
  minimumDetectableEffect : ℝ
  annualCostDragBps : Option ℝ
  minimumPracticalReturnBps : Option ℝ

/-- mirrors power.py:110-131 -/
noncomputable def luckThreshold (trials : ℕ) : ℝ :=
  if trials < 2 then 1.96 else √(2 * log trials)

theorem luckThreshold_pos (trials : ℕ) : 0 < luckThreshold trials := by
  unfold luckThreshold; split
  · norm_num
  next h =>
  have : (1 : ℝ) < trials := by exact_mod_cast (by omega : 1 < trials)
  exact sqrt_pos.2 (mul_pos two_pos (log_pos this))

/-- The edge does not pay its own costs. -/
noncomputable def uneconomic (s : EffectSpecification) : Option (ℝ × ℝ) :=
  s.economics.map fun e =>
    ((if s.estimand = .sharpe then s.minimumPractical
      else s.minimumPractical * √s.dependence.observationsPerYear) *
        e.expectedAnnualVolatilityBps, e.annualRebalances * e.roundTripCostBps)

open Classical in
/-- `assess` at a threshold.
mirrors power.py:446-504 -/
noncomputable def assessAt (s : EffectSpecification) (observations : ℕ) (threshold : ℝ)
    (override : Bool) : Except String PowerAssessment := do
  let required ← s.observationsRequired threshold
  let detectable ← s.minimumDetectableEffect observations threshold
  let verdict : PowerVerdict :=
    if ∃ p ∈ uneconomic s, p.1 ≤ p.2 then .uneconomic
    else if (observations : ℤ) < required then if override then .overridden else .underpowered
    else .powered
  .ok ⟨verdict, threshold, required, observations, observations / s.dependence.varianceInflation,
    s.dependence.varianceInflation, detectable, (uneconomic s).map (·.2), (uneconomic s).map (·.1)⟩

noncomputable def assess (s : EffectSpecification) (observations cumulativeTrials : ℕ)
    (override : Bool) : Except String PowerAssessment :=
  assessAt s observations (luckThreshold cumulativeTrials) override

/-! ## Where the two agree -/

section agreement

variable {s : EffectSpecification} {n : ℕ} {z : ℝ} {override : Bool}

/-- `assess` answers, and the sample suffices just when the effect it detects is expected. -/
def Agrees (s : EffectSpecification) (n : ℕ) (z : ℝ) (override : Bool) : Prop :=
  (∃ a, assessAt s n z override = .ok a) ∧
    ∀ required detectable, s.observationsRequired z = .ok required →
      s.minimumDetectableEffect n z = .ok detectable →
        (required ≤ n ↔ detectable ≤ s.expected)

/-- The samples on which a factor of two is missed: none but those of unpaired comparisons. -/
def Between (s : EffectSpecification) (n : ℕ) (least most : ℝ) : Prop :=
  s.comparison = .unpaired ∧ least * s.dependence.varianceInflation ≤ n ∧
    n < most * s.dependence.varianceInflation

/-- Outside the defect. -/
def Agreeable (s : EffectSpecification) (n : ℕ) (z : ℝ) : Prop :=
  (s.estimand = .informationCoefficient →
    3 < n / s.dependence.varianceInflation / s.armFactor ∧
    ¬ Between s n (2 * (z / artanh s.expected) ^ 2 + 3) (2 * (z / artanh s.expected) ^ 2 + 6)) ∧
  ∀ variance, s.jobsonKorkieMemmelVariance = .ok variance →
    ¬ Between s n ((z / s.expected) ^ 2 * variance * s.dependence.observationsPerYear)
      (2 * ((z / s.expected) ^ 2 * variance * s.dependence.observationsPerYear))

theorem mul_sqrt_le_iff {d v x : ℝ} (hz : 0 < z) (hd : 0 < d) (hx : 0 < x) :
    z * √(v / x) ≤ d ↔ (z / d) ^ 2 * v ≤ x := by
  rw [← le_div_iff₀' hz, sqrt_le_left (div_pos hd hz).le, div_le_iff₀ hx, ← inv_div z d, inv_pow,
    ← div_eq_inv_mul, le_div_iff₀' (pow_pos (div_pos hz hd) 2)]

theorem div_sqrt_le_iff {d x : ℝ} (hz : 0 < z) (hd : 0 < d) (hx : 0 < x) :
    z / √x ≤ d ↔ (z / d) ^ 2 ≤ x := by
  rw [div_eq_mul_inv, ← sqrt_inv, ← one_div, mul_sqrt_le_iff hz hd hx, mul_one]

theorem varianceInflation_pos (d : DependenceAssumptions) : 0 < d.varianceInflation := by
  have serial : 0 < (1 + d.lagOneAutocorrelation) / (1 - d.lagOneAutocorrelation) :=
    div_pos (by linarith [d.lag_range.1]) (by linarith [d.lag_range.2])
  have units : (1 : ℝ) ≤ d.clusterSize := by exact_mod_cast d.cluster_pos
  have clustering : 0 < 1 + ((d.clusterSize : ℝ) - 1) * d.intraClusterCorrelation := by
    have := mul_nonneg (sub_nonneg.2 units) d.intra_range.1; linarith
  have overlap : 0 < (if d.overlapping then d.horizonObservations else 1) := by
    have := d.horizon_pos; split <;> omega
  exact mul_pos (mul_pos serial clustering) (by exact_mod_cast overlap)

theorem armFactor_pos (s : EffectSpecification) : 0 < s.armFactor := by
  unfold EffectSpecification.armFactor; split <;> norm_num

theorem year_pos (s : EffectSpecification) : (0 : ℝ) < s.dependence.observationsPerYear := by
  exact_mod_cast s.dependence.year_pos

/-- The expected effect is positive away from the null, so nothing divides by zero. -/
theorem standardisedEffect_pos (s : EffectSpecification) : 0 < s.standardisedEffect s.expected := by
  have gap := s.expected_gt; unfold EffectSpecification.standardisedEffect
  cases h : s.estimand with
  | hitRate =>
    obtain ⟨low, high, -⟩ := s.proportion h
    exact div_pos (by linarith) (sqrt_pos.2 (mul_pos low (by linarith)))
  | sharpe =>
    rw [s.null_zero (by rw [h]; decide)] at gap
    exact div_pos gap (sqrt_pos.2 (year_pos s))
  | informationCoefficient =>
    rw [s.null_zero (by rw [h]; decide)] at gap
    exact artanh_pos ⟨gap, s.coefficient h⟩
  | meanDifference | crossSectionalSpread =>
    rw [s.null_zero (by rw [h]; decide)] at gap; exact gap

variable {variance : ℝ}

/-- The variance of a difference of Sharpes is the sum of two terms that are never negative. -/
theorem jobsonKorkieMemmelVariance_nonneg
    (h : s.jobsonKorkieMemmelVariance = .ok variance) : 0 ≤ variance := by
  unfold EffectSpecification.jobsonKorkieMemmelVariance at h; split at h
  · next benchmark rho hb hr =>
    obtain ⟨low, high⟩ := s.correlation_range rho hr
    have spread : 0 ≤ (1 - rho ^ 2) * ((s.expected + benchmark) ^ 2 + benchmark ^ 2) :=
      mul_nonneg (by nlinarith) (by positivity)
    have gap : 0 ≤ rho ^ 2 * s.expected ^ 2 := by positivity
    cases h; linarith
  · cases h

theorem difference_variance (h : s.isSharpeDifference) :
    ∃ variance, s.jobsonKorkieMemmelVariance = .ok variance := by
  obtain ⟨sharpe, correlation⟩ := s.difference h
  obtain ⟨b, hb⟩ := Option.ne_none_iff_exists'.1 sharpe
  obtain ⟨r, hr⟩ := Option.ne_none_iff_exists'.1 correlation
  exact ⟨_, by unfold EffectSpecification.jobsonKorkieMemmelVariance; rw [hb, hr]⟩

theorem variance_difference (h : s.jobsonKorkieMemmelVariance = .ok variance) :
    s.isSharpeDifference := by
  by_contra hd
  rw [EffectSpecification.jobsonKorkieMemmelVariance, (s.no_difference hd).1] at h
  cases h

theorem missed_iff {least most : ℝ} (hu : s.comparison = .unpaired) (hle : least ≤ most) :
    (least * s.dependence.varianceInflation ≤ n ↔
      most * s.dependence.varianceInflation ≤ n) ↔ ¬ Between s n least most := by
  have more := mul_le_mul_of_nonneg_right hle (varianceInflation_pos s.dependence).le
  constructor
  · intro h missed; exact absurd (h.1 missed.2.1) (not_le.2 missed.2.2)
  · intro h; refine ⟨fun low => ?_, fun high => more.trans high⟩; by_contra high
    exact h ⟨hu, low, not_le.1 high⟩

theorem armFactor_unpaired (hu : s.comparison = .unpaired) : s.armFactor = 2 := if_pos hu

theorem armFactor_one (hu : s.comparison ≠ .unpaired) : s.armFactor = 1 := if_neg hu

theorem required_le {x : ℝ} : ⌈x⌉ ≤ (n : ℤ) ↔ x ≤ n := by
  rw [Int.ceil_le, Int.cast_natCast]

/-- Dividing the sample by the inflation and the arms, or multiplying what is asked by them. -/
theorem le_independent_iff {q : ℝ} : q ≤ n / s.dependence.varianceInflation / s.armFactor ↔
      q * s.armFactor * s.dependence.varianceInflation ≤ n := by
  rw [le_div_iff₀ (armFactor_pos s), le_div_iff₀ (varianceInflation_pos s.dependence)]

theorem answers_iff : (∃ a, assessAt s n z override = .ok a) ↔
    (∃ required, s.observationsRequired z = .ok required) ∧
      ∃ detectable, s.minimumDetectableEffect n z = .ok detectable := by
  unfold assessAt
  cases s.observationsRequired z <;> cases s.minimumDetectableEffect n z <;>
    simp [bind, Except.bind]

theorem agrees_of_values {required : ℤ} {detectable : ℝ}
    (hr : s.observationsRequired z = .ok required)
    (hd : s.minimumDetectableEffect n z = .ok detectable) :
    Agrees s n z override ↔ (required ≤ n ↔ detectable ≤ s.expected) := by
  unfold Agrees; rw [answers_iff, hr, hd]; constructor
  · intro h; exact h.2 _ _ rfl rfl
  · intro h; refine ⟨⟨⟨_, rfl⟩, _, rfl⟩, fun r d er ed => ?_⟩; cases er
    cases ed; exact h

theorem difference_iff (hn : 0 < n) (hz : 0 < z) (hd : s.isSharpeDifference)
    (hv : s.jobsonKorkieMemmelVariance = .ok variance) : Agrees s n z override ↔
      ¬ Between s n ((z / s.expected) ^ 2 * variance * s.dependence.observationsPerYear)
        (2 * ((z / s.expected) ^ 2 * variance * s.dependence.observationsPerYear)) := by
  have positive : 0 < s.expected := by
    have := s.expected_gt; rwa [s.null_zero (by rw [hd.1]; decide)] at this
  have sample : 0 < (n : ℝ) / s.dependence.varianceInflation / s.armFactor :=
    div_pos (div_pos (by exact_mod_cast hn) (varianceInflation_pos _)) (armFactor_pos s)
  have years := div_pos sample (year_pos s)
  have required : s.observationsRequired z = .ok ⌈(z / s.expected) ^ 2 * variance *
      s.dependence.observationsPerYear * s.dependence.varianceInflation⌉ := by
    simp only [EffectSpecification.observationsRequired, hd, if_true, hv, bind, Except.bind]
  have detectable : s.minimumDetectableEffect n z = .ok (z * √(variance /
      (n / s.dependence.varianceInflation / s.armFactor / s.dependence.observationsPerYear))) := by
    simp only [EffectSpecification.minimumDetectableEffect, hn.ne', if_false, hd.1, hd, if_true,
      reduceCtorEq, not_le.2 years, hv, bind, Except.bind]
  have base : 0 ≤ (z / s.expected) ^ 2 * variance * s.dependence.observationsPerYear :=
    mul_nonneg (mul_nonneg (sq_nonneg _) (jobsonKorkieMemmelVariance_nonneg hv)) (year_pos s).le
  rw [agrees_of_values required detectable, required_le, mul_sqrt_le_iff hz positive years,
    le_div_iff₀ (year_pos s), le_independent_iff]
  by_cases hu : s.comparison = .unpaired
  · rw [armFactor_unpaired hu, mul_comm _ (2 : ℝ)]
    exact missed_iff hu (by linarith)
  · rw [armFactor_one hu, mul_one]; exact iff_of_true Iff.rfl fun h => hu h.1

/-- The correlation, where the detectable effect alone gives each arm its three degrees. -/
theorem correlation_iff (hn : 0 < n) (hz : 0 < z) (hc : s.estimand = .informationCoefficient) :
    Agrees s n z override ↔ 3 < n / s.dependence.varianceInflation / s.armFactor ∧
      ¬ Between s n (2 * (z / artanh s.expected) ^ 2 + 3)
        (2 * (z / artanh s.expected) ^ 2 + 6) := by
  have effect := standardisedEffect_pos s
  have required : s.observationsRequired z = .ok ⌈((z / artanh s.expected) ^ 2 * s.armFactor + 3) *
      s.dependence.varianceInflation⌉ := by
    simp only [EffectSpecification.observationsRequired, EffectSpecification.isSharpeDifference,
      EffectSpecification.standardisedEffect, hc, reduceCtorEq, false_and, if_false, if_true]
  by_cases degrees : n / s.dependence.varianceInflation / s.armFactor ≤ 3
  · have refused : ¬ Agrees s n z override := by
      rintro ⟨answers, -⟩; obtain ⟨-, detectable, hd⟩ := answers_iff.1 answers
      simp only [EffectSpecification.minimumDetectableEffect, hn.ne', if_false, hc, if_true,
        degrees, reduceCtorEq] at hd
    exact iff_of_false refused fun h => absurd degrees (not_le.2 h.1)
  have detectable : s.minimumDetectableEffect n z = .ok (tanh (z /
      √(n / s.dependence.varianceInflation / s.armFactor - 3))) := by
    simp only [EffectSpecification.minimumDetectableEffect, hn.ne', if_false, hc, if_true, degrees]
  have positive : 0 < s.expected := by
    have := s.expected_gt; rwa [s.null_zero (by rw [hc]; decide)] at this
  simp only [EffectSpecification.standardisedEffect, hc] at effect
  rw [and_iff_right (not_le.1 degrees), agrees_of_values required detectable, required_le,
    ← artanh_le_artanh_iff ⟨neg_one_lt_tanh _, tanh_lt_one _⟩
      ⟨by linarith, s.coefficient hc⟩, artanh_tanh,
    div_sqrt_le_iff hz effect (by linarith), le_sub_iff_add_le, le_independent_iff]
  by_cases hu : s.comparison = .unpaired
  · rw [armFactor_unpaired hu, mul_comm _ (2 : ℝ), mul_comm _ (2 : ℝ), mul_add,
      show (2 : ℝ) * 3 = 6 by norm_num]
    exact missed_iff hu (by linarith)
  · rw [armFactor_one hu, mul_one, mul_one]
    exact iff_of_true Iff.rfl fun h => hu h.1

theorem plain_agrees (hn : 0 < n) (hz : 0 < z) (hc : s.estimand ≠ .informationCoefficient)
    (hd : ¬ s.isSharpeDifference) : Agrees s n z override := by
  have effect := standardisedEffect_pos s
  have sample : 0 < (n : ℝ) / s.dependence.varianceInflation / s.armFactor :=
    div_pos (div_pos (by exact_mod_cast hn) (varianceInflation_pos _)) (armFactor_pos s)
  have required : s.observationsRequired z = .ok ⌈(z / s.standardisedEffect s.expected) ^ 2 *
      s.armFactor * s.dependence.varianceInflation⌉ := by
    simp only [EffectSpecification.observationsRequired, hd, hc, if_false, add_zero]
  have inverse := div_sqrt_le_iff hz effect sample
  rw [le_independent_iff, ← required_le] at inverse
  have detectable : ∃ d, s.minimumDetectableEffect n z = .ok d ∧ (d ≤ s.expected ↔
      z / √(n / s.dependence.varianceInflation / s.armFactor) ≤
        s.standardisedEffect s.expected) := by
    rw [EffectSpecification.minimumDetectableEffect]
    simp only [hn.ne', hd, hc, if_false]; refine ⟨_, rfl, ?_⟩
    unfold EffectSpecification.standardisedEffect
    cases h : s.estimand with
    | sharpe => exact (le_div_iff₀ (sqrt_pos.2 (year_pos s))).symm
    | meanDifference | crossSectionalSpread => exact Iff.rfl
    | informationCoefficient => exact absurd h hc
    | hitRate =>
      obtain ⟨low, high, -⟩ := s.proportion h
      rw [le_div_iff₀ (sqrt_pos.2 (mul_pos low (sub_pos.2 high))), le_sub_iff_add_le']
  obtain ⟨d, hmde, hle⟩ := detectable
  rw [agrees_of_values required hmde, hle, inverse]

/-- **The gate and the detectable effect agree**, and `assess` answers, just outside the samples
on which a factor of two is missed and the correlations with too few degrees of freedom. -/
theorem power_agrees_iff (s : EffectSpecification) (n : ℕ) (z : ℝ) (override : Bool) (hn : 0 < n)
    (hz : 0 < z) : Agrees s n z override ↔ Agreeable s n z := by
  by_cases hc : s.estimand = .informationCoefficient
  · have single (variance : ℝ) : s.jobsonKorkieMemmelVariance ≠ .ok variance := fun h => by
      have := (variance_difference h).1.symm.trans hc; cases this
    rw [correlation_iff hn hz hc]
    exact ⟨fun h => ⟨fun _ => h, fun v hv => absurd hv (single v)⟩, fun h => h.1 hc⟩
  by_cases hd : s.isSharpeDifference
  · obtain ⟨variance, hv⟩ := difference_variance hd
    rw [difference_iff hn hz hd hv]
    refine ⟨fun h => ⟨fun e => absurd e hc, fun v e => ?_⟩, fun h => h.2 _ hv⟩
    rw [hv] at e; cases e; exact h
  · exact iff_of_true (plain_agrees hn hz hc hd)
      ⟨fun e => absurd e hc, fun v e => absurd (variance_difference e) hd⟩

/-- A year of Sharpe `1` over an idle, perfectly correlated benchmark held by other units. -/
noncomputable def unpairedSharpe : EffectSpecification where
  estimand := .sharpe
  expected := 1
  minimumPractical := 1
  comparison := .unpaired
  dependence := ⟨0, 1, 0, false, 1, none, 252, by norm_num, Nat.one_pos, by norm_num, Nat.one_pos,
    by norm_num, nofun⟩
  economics := some ⟨12, 1000, 5, by norm_num, by norm_num⟩
  benchmarkSharpe := some 0
  benchmarkCorrelation := some 1
  expected_gt := by norm_num
  practical_gt := by norm_num
  practical_le := le_rfl
  correlation_range := by simp
  difference := by simp
  no_difference := fun h => absurd ⟨rfl, by decide⟩ h
  proportion := nofun
  null_zero := fun _ => rfl
  coefficient := nofun
  costed := by simp [returnLike]

theorem unpairedSharpe_variance : unpairedSharpe.jobsonKorkieMemmelVariance = .ok (1 / 2) := by
  simp only [EffectSpecification.jobsonKorkieMemmelVariance, unpairedSharpe]
  norm_num

theorem unpairedSharpe_inflation : unpairedSharpe.dependence.varianceInflation = 1 := by
  simp [DependenceAssumptions.varianceInflation, unpairedSharpe]

theorem power_agrees_iff_unpaired : Agrees unpairedSharpe 2000 1.96 false := by
  refine (power_agrees_iff _ _ _ _ (by norm_num) (by norm_num)).2 ⟨nofun, fun v hv between => ?_⟩
  cases hv; have high := between.2.2; rw [unpairedSharpe_inflation] at high
  norm_num [unpairedSharpe] at high

/-- 500 days are more than the 485 asked for, and detect no Sharpe below 1.39. -/
theorem unpairedSharpe_disagrees : ¬ Agrees unpairedSharpe 500 (luckThreshold 1) false := by
  intro h
  refine (difference_iff (by norm_num) (luckThreshold_pos 1) ⟨rfl, by decide⟩
    unpairedSharpe_variance).1 h ⟨rfl, ?_, ?_⟩ <;>
  · rw [unpairedSharpe_inflation]; norm_num [unpairedSharpe, luckThreshold]

end agreement

end Quantbot.L3.Power
