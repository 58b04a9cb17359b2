import Mathlib.Tactic.MkIffOfInductiveProp
import Quantbot.L3Research.Handoff

/-!
# Graded campaigns

`grade_campaign` and the validator of its outcome. Every frozen scenario is graded, whether or
not a measurement arrived for it, and the worst of what they show decides.

Details are rendered with `str` of a decimal, which is given.

* `gradeCampaign_total`: of a campaign as it is frozen, the validator refuses nothing the
  grader emits.
* `gradeCampaign_survivor`: a campaign survives on a required scenario that did.
-/
namespace Quantbot.L3.Experiment

open Core Txn L1 L2 Registry
open Promotion (CampaignVerdict ScenarioVerdict)

/-- What reading documents and rendering decimals take beside the modelled columns. -/
structure Grading extends Readings where
  maximumUnderpoweredFraction : ValidationCampaign → ℚ
  str : ℚ → String

/-- mirrors validation_campaign.py:400-421 -/
structure ScenarioMeasured where
  scenarioId : String
  effect : Option ℚ := none
  confidenceLow : Option ℚ := none
  confidenceHigh : Option ℚ := none
  testStatistic : Option ℚ := none
  trades : Nat
  effectiveObservations : Nat
  regimeMetrics : List (String × ℚ) := []
deriving DecidableEq

/-- mirrors validation_campaign.py:455-488 -/
structure ScenarioOutcome extends Promotion.ScenarioOutcome where
  effect : Option ℚ := none
  confidenceLow : Option ℚ := none
  confidenceHigh : Option ℚ := none
  testStatistic : Option ℚ := none
  trades : Nat
  effectiveObservations : Nat
  regimeMetrics : List (String × ℚ) := []
  freshEvidence : Bool
  detail : String
deriving DecidableEq

/-- mirrors validation_campaign.py:491-500 -/
structure CampaignOutcome where
  campaignId : String
  scenarios : List ScenarioOutcome
  verdict : CampaignVerdict
  underpoweredCount : Nat
  underpoweredFraction : ℚ
  integrityDefects : List String
  detail : String
deriving DecidableEq

/-- mirrors validation_campaign.py:450-452 -/
def unresolvedScenarioVerdicts : List ScenarioVerdict := [.mislabeled, .unverified, .unassessed]

def unresolved (outcomes : List ScenarioOutcome) : List ScenarioOutcome :=
  outcomes.filter fun o => o.verdict ∈ unresolvedScenarioVerdicts

def underpowered (outcomes : List ScenarioOutcome) : List ScenarioOutcome :=
  outcomes.filter fun o => o.verdict = .underpowered

/-- `Decimal(len(underpowered)) / Decimal(len(outcomes))`. -/
def underpoweredFraction (outcomes : List ScenarioOutcome) : ℚ :=
  Decimal.div (underpowered outcomes).length outcomes.length

/-- mirrors validation_campaign.py:502-611 -/
@[mk_iff]
structure CampaignOutcome.Consistent (o : CampaignOutcome) : Prop where
  graded : o.scenarios ≠ []
  once : (o.scenarios.map (·.scenarioId)).Nodup
  counted : o.underpoweredCount = (underpowered o.scenarios).length
  share : o.underpoweredFraction = Experiment.underpoweredFraction o.scenarios
  noted : unresolved o.scenarios ≠ [] → o.integrityDefects ≠ []
  defects : o.integrityDefects ≠ [] ↔ o.verdict = .inconclusive
  resolved : o.verdict = .survived → unresolved o.scenarios = []
  survivor : o.verdict = .survived → ∃ s ∈ o.scenarios, s.verdict = .survived
  idle : o.verdict = .underpowered → underpowered o.scenarios ≠ []
  refuted : o.verdict = .refuted → ∃ s ∈ o.scenarios, s.verdict = .refuted

instance (o : CampaignOutcome) : Decidable o.Consistent :=
  decidable_of_iff' _ (CampaignOutcome.consistent_iff o)

/-! ## One scenario -/

/-- mirrors validation_campaign.py:103-106 -/
def RegimeConstraint.satisfiedBy (c : RegimeConstraint) (value : ℚ) : Prop :=
  match c.operator with
  | .atLeast => c.threshold ≤ value
  | .atMost => value ≤ c.threshold

instance (c : RegimeConstraint) (value : ℚ) : Decidable (c.satisfiedBy value) := by
  unfold RegimeConstraint.satisfiedBy
  cases c.operator <;> infer_instance

section grade

variable (g : Grading)

def missingMetrics (x : ValidationScenario) (m : ScenarioMeasured) : List String :=
  ((g.scenario x).regimeConstraints.filter fun c => (m.regimeMetrics.lookup c.metric).isNone).map
    (·.metric)

def contradictedMetrics (x : ValidationScenario) (m : ScenarioMeasured) : List String :=
  ((g.scenario x).regimeConstraints.filter fun c =>
    ∃ value ∈ m.regimeMetrics.lookup c.metric, ¬ c.satisfiedBy value).map (·.metric)

/-- mirrors validation_campaign.py:614-673 -/
def scenarioVerdict (x : ValidationScenario) (m : ScenarioMeasured) (luckThresholdZ : ℚ) :
    ScenarioVerdict × String :=
  let missing := missingMetrics g x m
  let contradicted := contradictedMetrics g x m
  if contradicted ≠ [] then
    (.mislabeled, "; ".intercalate
      ((if missing ≠ [] then ["missing regime diagnostics: " ++ ", ".intercalate missing] else []) ++
        ["measured regime contradicts label: " ++ ", ".intercalate contradicted]))
  else if missing ≠ [] then
    (.unverified, "regime unavailable; missing diagnostics: " ++ ", ".intercalate missing)
  else if m.trades < (g.scenario x).minimumTrades ∨
      m.effectiveObservations < (g.scenario x).minimumEffectiveObservations then
    (.underpowered, s!"activity {m.trades} trades/{m.effectiveObservations} effective " ++
      s!"observations is below the frozen {(g.scenario x).minimumTrades}/" ++
      s!"{(g.scenario x).minimumEffectiveObservations}")
  else match m.testStatistic with
    | none => (.unassessed, "the scenario reported no test statistic")
    | some statistic =>
      let t := "t=" ++ g.str statistic
      if luckThresholdZ ≤ statistic then
        (.survived, t ++ " cleared the " ++ g.str luckThresholdZ ++ " bar")
      else if statistic ≤ -luckThresholdZ then
        (.refuted, t ++ " is significant in the direction opposite to the registered claim, " ++
          "which is evidence against it rather than for it")
      else (.refuted, t ++ " did not clear the " ++ g.str luckThresholdZ ++ " bar")

/-- The first measurement of a scenario, unless there is another.
mirrors validation_campaign.py:694-743 -/
def gradeScenario (ms : List ScenarioMeasured) (luckThresholdZ : ℚ) (x : ValidationScenario) :
    ScenarioOutcome :=
  let scenarioId := (g.scenario x).scenarioId
  match ms.filter fun m => m.scenarioId = scenarioId with
  | [] =>
    { scenarioId := scenarioId
      verdict := .unassessed
      trades := 0
      effectiveObservations := 0
      freshEvidence := false
      detail := "the frozen scenario reported no result" }
  | [m] =>
    let (verdict, explanation) := scenarioVerdict g x m luckThresholdZ
    { scenarioId := scenarioId
      verdict := verdict
      effect := m.effect
      confidenceLow := m.confidenceLow
      confidenceHigh := m.confidenceHigh
      testStatistic := m.testStatistic
      trades := m.trades
      effectiveObservations := m.effectiveObservations
      regimeMetrics := m.regimeMetrics
      freshEvidence := (g.scenario x).observedMarket ∧
        x.dataRole = DataRole.protectedEvaluation.value ∧
        (verdict = .survived ∨ verdict = .refuted)
      detail := explanation }
  | m :: _ :: _ =>
    { scenarioId := scenarioId
      verdict := .unassessed
      trades := m.trades
      effectiveObservations := m.effectiveObservations
      freshEvidence := false
      detail := "the frozen scenario reported duplicate, ambiguous results" }

theorem gradeScenario_id (ms : List ScenarioMeasured) (z : ℚ) (x : ValidationScenario) :
    (gradeScenario g ms z x).scenarioId = (g.scenario x).scenarioId := by
  unfold gradeScenario; dsimp only; split <;> rfl

/-! ## The campaign -/

def unknownScenarios (c : ValidationCampaign) (ms : List ScenarioMeasured) : List String :=
  ((ms.map (·.scenarioId)).filter fun id =>
    id ∉ c.scenarios.map fun x => (g.scenario x).scenarioId).eraseDups.mergeSort

def integrityDefects (unknown : List String) (outcomes : List ScenarioOutcome) : List String :=
  (if unknown ≠ [] then
    ["measurements named unknown scenario ids: " ++ ", ".intercalate unknown] else []) ++
  if unresolved outcomes ≠ [] then
    ["scenario integrity unresolved: " ++
      ", ".intercalate ((unresolved outcomes).map (·.scenarioId))]
  else []

/-- Of a required scenario of the campaign. -/
def requiredOutcome (c : ValidationCampaign) (o : ScenarioOutcome) : Prop :=
  o.scenarioId ∈ (c.scenarios.filter fun x => (g.scenario x).required).map
    fun x => (g.scenario x).scenarioId
deriving Decidable

/-- Precedence, worst first.
mirrors validation_campaign.py:754-791 -/
def campaignVerdict (c : ValidationCampaign) (defects : List String)
    (outcomes : List ScenarioOutcome) : CampaignVerdict × String :=
  let idle := (underpowered outcomes).filter (requiredOutcome g c ·)
  let refuted := outcomes.filter fun o => requiredOutcome g c o ∧ o.verdict = .refuted
  if defects ≠ [] then (.inconclusive, "; ".intercalate defects)
  else if idle ≠ [] then
    (.underpowered, "required scenarios were underpowered: " ++
      ", ".intercalate (idle.map (·.scenarioId)))
  else if g.maximumUnderpoweredFraction c < underpoweredFraction outcomes then
    (.underpowered, "underpowered share " ++ g.str (underpoweredFraction outcomes) ++
      " exceeds the frozen ceiling " ++ g.str (g.maximumUnderpoweredFraction c))
  else if refuted ≠ [] then
    (.refuted, "required scenarios failed: " ++ ", ".intercalate (refuted.map (·.scenarioId)))
  else (.survived, "every required scenario passed and unresolved activity stayed within policy")

/-- mirrors validation_campaign.py:676-801 -/
def gradeCampaign (c : ValidationCampaign) (ms : List ScenarioMeasured) (luckThresholdZ : ℚ) :
    Except RunError CampaignOutcome :=
  if luckThresholdZ ≤ 0 then .error .validation
  else if c.scenarios = [] then .error .arithmetic
  else
    let outcomes := c.scenarios.map (gradeScenario g ms luckThresholdZ)
    let defects := integrityDefects (unknownScenarios g c ms) outcomes
    let o : CampaignOutcome :=
      { campaignId := g.contentId (.campaign c)
        scenarios := outcomes
        verdict := (campaignVerdict g c defects outcomes).1
        underpoweredCount := (underpowered outcomes).length
        underpoweredFraction := underpoweredFraction outcomes
        integrityDefects := defects
        detail := (campaignVerdict g c defects outcomes).2 }
    if o.Consistent then .ok o else .error .validation

/-! ## What the grader emits -/

/-- What the validator of a campaign sees to.
mirrors validation_campaign.py:276-334 -/
structure FrozenCampaign (c : ValidationCampaign) : Prop where
  distinct : (c.scenarios.map fun x => (g.scenario x).scenarioId).Nodup
  mandatory : ∃ x ∈ c.scenarios, (g.scenario x).required = true
  ceiling : 0 ≤ g.maximumUnderpoweredFraction c

variable {g} {c : ValidationCampaign}

/-- What a verdict rests on. -/
def Grounds (g : Grading) (c : ValidationCampaign) (defects : List String)
    (outcomes : List ScenarioOutcome) : CampaignVerdict → Prop
  | .inconclusive => defects ≠ []
  | .underpowered => defects = [] ∧ ((∃ o ∈ underpowered outcomes, requiredOutcome g c o) ∨
      g.maximumUnderpoweredFraction c < underpoweredFraction outcomes)
  | .refuted => defects = [] ∧ ∃ o ∈ outcomes, requiredOutcome g c o ∧ o.verdict = .refuted
  | .survived => defects = [] ∧ (∀ o ∈ underpowered outcomes, ¬ requiredOutcome g c o) ∧
      ∀ o ∈ outcomes, requiredOutcome g c o → o.verdict ≠ .refuted

theorem campaignVerdict_grounds (defects : List String) (outcomes : List ScenarioOutcome) :
    Grounds g c defects outcomes (campaignVerdict g c defects outcomes).1 := by
  unfold campaignVerdict; dsimp only; split
  · next hdefects => exact hdefects
  next hdefects =>
  rw [not_not] at hdefects; split
  · next hidle =>
    obtain ⟨o, ho⟩ := List.exists_mem_of_ne_nil _ hidle
    obtain ⟨hmem, hrequired⟩ := List.mem_filter.1 ho
    exact ⟨hdefects, .inl ⟨o, hmem, of_decide_eq_true hrequired⟩⟩
  next hidle =>
  rw [not_not, List.filter_eq_nil_iff] at hidle; split
  · next hshare => exact ⟨hdefects, .inr hshare⟩
  split
  · next hrefuted =>
    obtain ⟨o, ho⟩ := List.exists_mem_of_ne_nil _ hrefuted
    obtain ⟨hmem, hrequired⟩ := List.mem_filter.1 ho
    exact ⟨hdefects, o, hmem, of_decide_eq_true hrequired⟩
  · next hrefuted =>
    rw [not_not, List.filter_eq_nil_iff] at hrefuted
    refine ⟨hdefects, fun o ho h => hidle o ho (decide_eq_true h), fun o ho h hv => ?_⟩
    exact hrefuted o ho (decide_eq_true ⟨h, hv⟩)

variable {outcomes : List ScenarioOutcome}

theorem integrityDefects_eq_nil {unknown : List String} :
    integrityDefects unknown outcomes = [] ↔ unknown = [] ∧ unresolved outcomes = [] := by
  unfold integrityDefects
  by_cases hu : unknown = [] <;> by_cases hr : unresolved outcomes = [] <;> simp [hu, hr]

theorem underpoweredFraction_eq_zero
    (h : underpowered outcomes = []) : underpoweredFraction outcomes = 0 := by
  unfold underpoweredFraction Decimal.div
  rw [h, List.length_nil, Nat.cast_zero, zero_div, Decimal.round_zero]

theorem resolved_cases {o : ScenarioOutcome} (h : o.verdict ∉ unresolvedScenarioVerdicts) :
    o.verdict = .survived ∨ o.verdict = .refuted ∨ o.verdict = .underpowered := by
  cases hv : o.verdict <;> rw [hv] at h <;> revert h <;> decide

variable {ms : List ScenarioMeasured} {z : ℚ}

theorem gradeCampaign_survivor (hfrozen : FrozenCampaign g c)
    {defects : List String} (hdefects : defects = integrityDefects (unknownScenarios g c ms)
      (c.scenarios.map (gradeScenario g ms z)))
    (h : (campaignVerdict g c defects (c.scenarios.map (gradeScenario g ms z))).1 = .survived) :
    ∃ s ∈ c.scenarios.map (gradeScenario g ms z), s.verdict = .survived := by
  obtain ⟨x, hx, hrequired⟩ := hfrozen.mandatory
  have hcases := campaignVerdict_grounds (g := g) (c := c) defects
    (c.scenarios.map (gradeScenario g ms z))
  rw [h] at hcases; obtain ⟨hnone, hidle, hrefuted⟩ := hcases
  have hmem : gradeScenario g ms z x ∈ c.scenarios.map (gradeScenario g ms z) :=
    List.mem_map_of_mem hx
  have hreq : requiredOutcome g c (gradeScenario g ms z x) := by
    unfold requiredOutcome; rw [gradeScenario_id]
    exact List.mem_map_of_mem (List.mem_filter.2 ⟨hx, hrequired⟩)
  have hresolved := (integrityDefects_eq_nil.1 (hdefects.symm.trans hnone)).2
  unfold unresolved at hresolved; rw [List.filter_eq_nil_iff] at hresolved
  refine ⟨_, hmem, ?_⟩
  rcases resolved_cases (fun hin => hresolved _ hmem (decide_eq_true hin)) with hv | hv | hv
  · exact hv
  · exact absurd hv (hrefuted _ hmem hreq)
  · exact absurd hreq (hidle _ (List.mem_filter.2 ⟨hmem, decide_eq_true hv⟩))

/-- **Grader and validator.** Of a campaign as it is frozen, whatever was measured is graded. -/
theorem gradeCampaign_total (hfrozen : FrozenCampaign g c) (ms : List ScenarioMeasured)
    (hz : 0 < z) : ∃ o, gradeCampaign g c ms z = .ok o := by
  obtain ⟨x, hx, _⟩ := hfrozen.mandatory
  have hne : c.scenarios ≠ [] := List.ne_nil_of_mem hx; unfold gradeCampaign
  rw [if_neg (not_le.2 hz), if_neg hne]; dsimp only
  generalize hdefects : integrityDefects (unknownScenarios g c ms)
    (c.scenarios.map (gradeScenario g ms z)) = defects
  have hcases := campaignVerdict_grounds (g := g) (c := c) defects
    (c.scenarios.map (gradeScenario g ms z))
  refine ⟨_, if_pos ?_⟩
  refine ⟨fun h => hne (List.map_eq_nil_iff.1 h), ?_, rfl, rfl, fun h hnone => ?_, ⟨fun h => ?_,
    fun h => ?_⟩, fun h => ?_, fun h => ?_, fun h hidle => ?_, fun h => ?_⟩
  · dsimp only; rw [List.map_map]
    exact (List.map_congr_left fun x _ => gradeScenario_id g ms z x) ▸ hfrozen.distinct
  · dsimp only at h hnone
    exact h (integrityDefects_eq_nil.1 (hdefects.trans hnone)).2
  · dsimp only at h ⊢
    cases hv : (campaignVerdict g c defects (c.scenarios.map (gradeScenario g ms z))).1 with
    | inconclusive => rfl
    | _ =>
      rw [hv] at hcases; exact absurd hcases.1 h
  · dsimp only at h ⊢; rw [h] at hcases; exact hcases
  · dsimp only at h ⊢; rw [h] at hcases
    exact (integrityDefects_eq_nil.1 (hdefects.trans hcases.1)).2
  · exact gradeCampaign_survivor hfrozen hdefects.symm h
  · dsimp only at h hidle; rw [h] at hcases
    rcases hcases.2 with ⟨o, ho, _⟩ | hshare
    · rw [hidle] at ho; cases ho
    · rw [underpoweredFraction_eq_zero hidle] at hshare
      exact absurd hfrozen.ceiling (not_le.2 hshare)
  · dsimp only at h ⊢; rw [h] at hcases; obtain ⟨_, o, ho, _, hv⟩ := hcases
    exact ⟨o, ho, hv⟩

theorem gradeCampaign_ok {o : CampaignOutcome}
    (h : gradeCampaign g c ms z = .ok o) : o.campaignId = g.contentId (.campaign c) := by
  unfold gradeCampaign at h; split at h
  · cases h
  split at h
  · cases h
  dsimp only at h; split at h
  · cases h; rfl
  · cases h

theorem gradeCampaign_error {e : RunError}
    (h : gradeCampaign g c ms z = .error e) : e = .validation ∨ e = .arithmetic := by
  unfold gradeCampaign at h; split at h
  · cases h; exact .inl rfl
  split at h
  · cases h; exact .inr rfl
  dsimp only at h; split at h
  · cases h
  · cases h; exact .inl rfl

end grade

end Quantbot.L3.Experiment
