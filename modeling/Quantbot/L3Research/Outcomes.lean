import Quantbot.L3Research.Campaigns

/-!
# Graded outcomes

The verdict a measurement earns (`_grade`), the outcome of each artifact test
(`_grade_artifacts`), the outcome of a run that failed, and the constructor every outcome goes
through. A measurement is arbitrary: its decimals need not be finite, its names may be blank.

* `grade_survived`: the verdict is SURVIVED exactly on the frozen terms.
* `grade_artifacts`: each planned artifact test has one outcome.
* `grade_total`: an output that validates is graded, unless it answers a campaign that was never
  frozen.
-/
namespace Quantbot.L3.Experiment

open Core Txn L1 L2 Registry
open Memory (ArtifactOutcome ArtifactOutcomeVerdict)
open Promotion (CampaignVerdict ExecutionPath OutcomeVerdict)

/-! ## Measurements -/

/-- A `Decimal`. -/
inductive Number
  | finite (value : ℚ)
  | infinite (negative : Bool)
  | nan
deriving DecidableEq

/-- `number >= bound`; NaN does not compare. -/
def Number.atLeast : Number → ℚ → Except RunError Bool
  | .finite value, bound => .ok (bound ≤ value)
  | .infinite negative, _ => .ok (!negative)
  | .nan, _ => .error .arithmetic

/-- `number <= bound`. -/
def Number.atMost : Number → ℚ → Except RunError Bool
  | .finite value, bound => .ok (value ≤ bound)
  | .infinite negative, _ => .ok negative
  | .nan, _ => .error .arithmetic

/-- mirrors runner.py:281-290 -/
structure ArtifactMeasured where
  testId : String
  effect : Option Number := none
  testStatistic : Option Number := none
  confidenceLow : Option Number := none
  confidenceHigh : Option Number := none
  probesRun : List String := []
  probesFailed : List String := []
deriving DecidableEq

/-- mirrors runner.py:249-277 -/
structure Measured where
  effect : Option Number := none
  testStatistic : Option Number := none
  confidenceLow : Option Number := none
  confidenceHigh : Option Number := none
  reproductionInputs : List (String × String) := []
  probesRun : List String := []
  probesFailed : List String := []
  diagnostics : List (String × String) := []
  detail : String := ""
  artifactMeasurements : List ArtifactMeasured := []
  scenarioMeasurements : List ScenarioMeasured := []
deriving DecidableEq

/-! ## The outcome -/

/-- mirrors builder.py:293-315 -/
structure ExperimentOutcome where
  plan : ExperimentPlan
  verdict : OutcomeVerdict
  effect : Option ℚ := none
  confidenceLow : Option ℚ := none
  confidenceHigh : Option ℚ := none
  testStatistic : Option ℚ := none
  probesRun : List String := []
  probesFailed : List String := []
  diagnostics : List (String × String) := []
  artifactOutcomes : List ArtifactOutcome := []
  validationOutcome : Option CampaignOutcome := none
  detail : String
  completedAt : Int
deriving DecidableEq

/-- A field of type `Decimal | None`. -/
def decimalField : Option Number → Except RunError (Option ℚ)
  | none => .ok none
  | some (.finite value) => .ok (some value)
  | some _ => .error .validation

/-- A field of type `tuple[Text, ...]`. -/
def textsField (texts : List String) : Except RunError (List String) :=
  if ∀ t ∈ texts, strip t ≠ "" then .ok (texts.map strip) else .error .validation

/-- mirrors builder.py:381-410 -/
def campaignBound (plan : ExperimentPlan) (campaign : Option CampaignOutcome) : Prop :=
  campaign.map (·.campaignId) = plan.validationCampaignId
deriving Decidable

/-- The rules of a survivor beside its probes.
mirrors builder.py:342-378 -/
def Survivor (o : ExperimentOutcome) : Prop :=
  o.probesFailed = [] ∧ o.plan.executionPath = .productionEngine ∧
    (∀ c ∈ o.validationOutcome, c.verdict = .survived) ∧
    ∃ statistic ∈ o.testStatistic, o.plan.statistics.luckThresholdZ ≤ statistic
deriving Decidable

/-- mirrors builder.py:318-379 -/
def ExperimentOutcome.Valid (o : ExperimentOutcome) : Prop :=
  campaignBound o.plan o.validationOutcome ∧
    (o.verdict = .failed ∨ o.verdict = .inconclusive ∨
      (∀ probe ∈ o.plan.probes, probe ∈ o.probesRun) ∧ (o.verdict = .survived → Survivor o))
deriving Decidable

/-- The fields of an outcome as the grader passes them. -/
structure OutcomeFields where
  verdict : OutcomeVerdict
  effect : Option Number := none
  confidenceLow : Option Number := none
  confidenceHigh : Option Number := none
  testStatistic : Option Number := none
  probesRun : List String := []
  probesFailed : List String := []
  diagnostics : List (String × String) := []
  detail : String

/-- The constructor: field checks, then `validate_outcome`. -/
def ExperimentOutcome.construct (plan : ExperimentPlan) (fields : OutcomeFields)
    (artifacts : List ArtifactOutcome) (campaign : Option CampaignOutcome) (now : Int) :
    Except RunError ExperimentOutcome := do
  let effect ← decimalField fields.effect
  let low ← decimalField fields.confidenceLow
  let high ← decimalField fields.confidenceHigh
  let statistic ← decimalField fields.testStatistic
  let probesRun ← textsField fields.probesRun
  let probesFailed ← textsField fields.probesFailed
  let o : ExperimentOutcome :=
    { plan := plan
      verdict := fields.verdict
      effect := effect
      confidenceLow := low
      confidenceHigh := high
      testStatistic := statistic
      probesRun := probesRun
      probesFailed := probesFailed
      diagnostics := fields.diagnostics
      artifactOutcomes := artifacts
      validationOutcome := campaign
      detail := strip fields.detail
      completedAt := now }
  if o.detail ≠ "" ∧ o.Valid then pure o else throw .validation

/-! ## Artifact tests -/

section grade

variable (g : Grading)

/-- `str` of a decimal. -/
def Number.text : Number → String
  | .finite value => g.str value
  | .infinite negative => if negative then "-Infinity" else "Infinity"
  | .nan => "NaN"

def optionText (x : Option Number) : String := (x.map (Number.text g)).getD ""

def missingProbes (plan : ExperimentPlan) (probesRun : List String) : List String :=
  plan.probes.filter fun probe => probe ∉ probesRun

/-- What a bar decides of a statistic: its verdict, and whether a refutation points the other way.
mirrors power.py:507-530 -/
def clears (statistic : Number) (bar : ℚ) : Except RunError (Bool × Bool) := do
  let survived ← statistic.atLeast bar
  if survived then pure (true, false)
  else do
    let opposite ← statistic.atMost (-bar)
    pure (false, opposite)

/-- mirrors runner.py:938-987 -/
def artifactVerdict (plan : ExperimentPlan) (test : ArtifactTest)
    (results : List ArtifactMeasured) : Except RunError (ArtifactOutcomeVerdict × String) :=
  match results with
  | _ :: _ :: _ =>
    .ok (.unassessed, "the artifact contrast reported duplicate, ambiguous results")
  | [] => .ok (.unassessed, "the preregistered artifact contrast reported no result")
  | [result] =>
    match result.testStatistic with
    | none => .ok (.unassessed, "the artifact contrast reported no test statistic")
    | some statistic =>
      let bar := (g.test test).luckThresholdZ
      if missingProbes plan result.probesRun ≠ [] then
        .ok (.unassessed, "artifact probes did not run: " ++
          ", ".intercalate (missingProbes plan result.probesRun))
      else if (g.test test).overridden then
        .ok (.underpowered, "the operator accepted an underpowered artifact test; its measured " ++
          "number cannot become confirmatory evidence")
      else if result.probesFailed ≠ [] then
        .ok (.refuted, "artifact probes objected: " ++ ", ".intercalate result.probesFailed)
      else do
        let t := "t=" ++ statistic.text g
        match ← clears statistic bar with
        | (true, _) =>
          pure (.survived, t ++ " cleared the artifact test's frozen " ++ g.str bar ++ " luck bar")
        | (false, true) =>
          pure (.refuted, t ++ " is significant in the direction opposite to the registered " ++
            "artifact claim, which is evidence against it rather than for it; the " ++ g.str bar ++
            " bar is one-sided because the registration is")
        | (false, false) =>
          pure (.refuted, t ++ " did not clear the artifact test's frozen " ++ g.str bar ++
            " luck bar")

/-- mirrors runner.py:924-1015 -/
def gradeArtifact (plan : ExperimentPlan) (measured : List ArtifactMeasured) (test : ArtifactTest) :
    Except RunError ArtifactOutcome := do
  let results := measured.filter fun m => m.testId = testId g.toReadings test
  let (verdict, detail) ← artifactVerdict g plan test results
  let probesRun ← textsField ((results.head?.map (·.probesRun)).getD [])
  let probesFailed ← textsField ((results.head?.map (·.probesFailed)).getD [])
  pure
    { testId := testId g.toReadings test
      testRegistrationHash := g.contentId (.artifactTest test)
      artifactKind := (g.test test).artifactKind
      artifactContentId := (g.test test).artifactContentId
      verdict := verdict
      effect := optionText g (results.head?.bind (·.effect))
      confidenceLow := optionText g (results.head?.bind (·.confidenceLow))
      confidenceHigh := optionText g (results.head?.bind (·.confidenceHigh))
      testStatistic := optionText g (results.head?.bind (·.testStatistic))
      probesRun := probesRun
      probesFailed := probesFailed
      detail := strip detail }

def gradeArtifacts (plan : ExperimentPlan) (measured : List ArtifactMeasured) :
    Except RunError (List ArtifactOutcome) :=
  plan.artifactTests.mapM (gradeArtifact g plan measured)

/-! ## The verdict -/

/-- mirrors runner.py:786-820 -/
def gradeValidationCampaign (persisted : Registration) (scenarios : List ScenarioMeasured) :
    Except RunError (Option CampaignOutcome) :=
  match persisted.draft.validationCampaign with
  | none => if scenarios = [] then .ok none else .error (.refused .unregisteredScenarios)
  | some campaign =>
    (gradeCampaign g campaign scenarios (g.claim persisted).luckThresholdZ).map some

/-- The verdict of the numbers alone.
mirrors runner.py:854-883 -/
def primaryVerdict (plan : ExperimentPlan) (measured : Measured) :
    Except RunError (OutcomeVerdict × String) :=
  let bar := plan.statistics.luckThresholdZ
  match measured.testStatistic with
  | none => .ok (.inconclusive, "the measurement reported no test statistic, so nothing was tested")
  | some statistic =>
    if measured.probesFailed ≠ [] then
      .ok (.refuted, "adversarial probes objected: " ++ ", ".intercalate measured.probesFailed)
    else do
      let t := "t=" ++ statistic.text g
      match ← clears statistic bar with
      | (true, _) => pure (.survived, t ++ " cleared the " ++ g.str bar ++ " luck bar")
      | (false, true) =>
        pure (.refuted, t ++ " is significant in the direction opposite to the registered claim, " ++
          "which is evidence against it rather than for it; the " ++ g.str bar ++
          " luck bar is one-sided because the registration is")
      | (false, false) =>
        pure (.refuted, t ++ " did not clear the " ++ g.str bar ++ " luck bar")

/-- `_CAMPAIGN_VERDICTS`.
mirrors runner.py:115-120 -/
def campaignVerdicts : CampaignVerdict → OutcomeVerdict
  | .survived => .survived
  | .refuted => .refuted
  | .underpowered => .underpowered
  | .inconclusive => .inconclusive

/-- `verdict.value.lower()`. -/
def campaignWord : CampaignVerdict → String
  | .survived => "survived"
  | .refuted => "refuted"
  | .underpowered => "underpowered"
  | .inconclusive => "inconclusive"

/-- A campaign takes away and never adds.
mirrors runner.py:893-906 -/
def downgraded (primary : OutcomeVerdict × String) : Option CampaignOutcome →
    OutcomeVerdict × String
  | none => primary
  | some campaign =>
    if primary.1 = .survived then
      (campaignVerdicts campaign.verdict,
        if campaign.verdict = .survived then primary.2
        else "validation campaign " ++ campaignWord campaign.verdict ++ ": " ++ campaign.detail)
    else primary

/-- mirrors runner.py:822-922 -/
def grade (plan : ExperimentPlan) (persisted : Registration) (measured : Measured) (now : Int) :
    Except RunError ExperimentOutcome :=
  let missing := missingProbes plan measured.probesRun
  if missing ≠ [] then do
    let artifacts ← gradeArtifacts g plan measured.artifactMeasurements
    let campaign ← gradeValidationCampaign g persisted measured.scenarioMeasurements
    ExperimentOutcome.construct plan
      { verdict := .inconclusive
        effect := measured.effect
        testStatistic := measured.testStatistic
        probesRun := measured.probesRun
        probesFailed := measured.probesFailed
        diagnostics := measured.diagnostics
        detail := "probes required by the plan did not run, so the number cannot be read as " ++
          "evidence either way: " ++ ", ".intercalate missing } artifacts campaign now
  else do
    let primary ← primaryVerdict g plan measured
    let campaign ← gradeValidationCampaign g persisted measured.scenarioMeasurements
    let artifacts ← gradeArtifacts g plan measured.artifactMeasurements
    ExperimentOutcome.construct plan
      { verdict := (downgraded primary campaign).1
        effect := measured.effect
        confidenceLow := measured.confidenceLow
        confidenceHigh := measured.confidenceHigh
        testStatistic := measured.testStatistic
        probesRun := measured.probesRun
        probesFailed := measured.probesFailed
        diagnostics := if measured.detail = "" then measured.diagnostics
          else measured.diagnostics.filter (·.1 ≠ "measurement_detail") ++
            [("measurement_detail", measured.detail)]
        detail := (downgraded primary campaign).2 } artifacts campaign now

/-- `Measured(effect=None)`. -/
def emptyMeasured : Measured := {}

/-- mirrors runner.py:497-540 -/
def failedOutcome (plan : ExperimentPlan) (persisted : Registration) (detail : String)
    (now : Int) : Except RunError ExperimentOutcome := do
  let artifacts ← gradeArtifacts g plan emptyMeasured.artifactMeasurements
  let campaign ← gradeValidationCampaign g persisted emptyMeasured.scenarioMeasurements
  ExperimentOutcome.construct plan { verdict := .failed, detail := detail } artifacts campaign now

end grade

/-! ## What the constructor lets through -/

section outcomes

variable {g : Grading} {plan : ExperimentPlan} {persisted : Registration} {measured : Measured}
  {now : Int} {o : ExperimentOutcome}

variable {e : RunError}

theorem decimalField_error {x : Option Number} (h : decimalField x = .error e) :
    e = .validation := by
  unfold decimalField at h; split at h <;> cases h; rfl

variable {texts : List String}

theorem textsField_error (h : textsField texts = .error e) : e = .validation := by
  unfold textsField at h; split at h <;> cases h; rfl

variable {artifacts : List ArtifactOutcome} {campaign : Option CampaignOutcome}
  {fields : OutcomeFields}

theorem construct_ok (h : ExperimentOutcome.construct plan fields artifacts campaign now = .ok o) :
    o.plan = plan ∧ o.verdict = fields.verdict ∧ o.artifactOutcomes = artifacts ∧
      o.validationOutcome = campaign ∧ o.Valid := by
  obtain ⟨_, _, h⟩ := except_bind_ok.1 h; obtain ⟨_, _, h⟩ := except_bind_ok.1 h
  obtain ⟨_, _, h⟩ := except_bind_ok.1 h; obtain ⟨_, _, h⟩ := except_bind_ok.1 h
  obtain ⟨_, _, h⟩ := except_bind_ok.1 h; obtain ⟨_, _, h⟩ := except_bind_ok.1 h
  dsimp only at h; split at h
  · next hvalid =>
    cases h; exact ⟨rfl, rfl, rfl, rfl, hvalid.2⟩
  · cases h

theorem construct_error
    (h : ExperimentOutcome.construct plan fields artifacts campaign now = .error e) :
    e = .validation := by
  rcases except_bind_error h with h | ⟨_, _, h⟩
  · exact decimalField_error h
  rcases except_bind_error h with h | ⟨_, _, h⟩
  · exact decimalField_error h
  rcases except_bind_error h with h | ⟨_, _, h⟩
  · exact decimalField_error h
  rcases except_bind_error h with h | ⟨_, _, h⟩
  · exact decimalField_error h
  rcases except_bind_error h with h | ⟨_, _, h⟩
  · exact textsField_error h
  rcases except_bind_error h with h | ⟨_, _, h⟩
  · exact textsField_error h
  dsimp only at h; split at h <;> cases h; rfl

/-! ## Artifact tests -/

variable {test : ArtifactTest} {ms : List ArtifactMeasured}

theorem gradeArtifact_id {a : ArtifactOutcome} (h : gradeArtifact g plan ms test = .ok a) :
    a.testId = testId g.toReadings test := by
  obtain ⟨_, _, h⟩ := except_bind_ok.1 h; obtain ⟨_, _, h⟩ := except_bind_ok.1 h
  obtain ⟨_, _, h⟩ := except_bind_ok.1 h; cases h; rfl

theorem gradeArtifacts_ids {as : List ArtifactOutcome} (h : gradeArtifacts g plan ms = .ok as) :
    as.map (·.testId) = plan.artifactTests.map (testId g.toReadings) :=
  mapM_ok_map (fun _ _ => gradeArtifact_id) h

/-! ## The verdict -/

theorem clears_ok {statistic : Number} {bar : ℚ} {b : Bool × Bool}
    (h : clears statistic bar = .ok b) : statistic.atLeast bar = .ok b.1 := by
  obtain ⟨survived, hs, h⟩ := except_bind_ok.1 h
  cases survived with
  | true =>
    cases h; exact hs
  | false =>
    obtain ⟨_, _, h⟩ := except_bind_ok.1 h; cases h; exact hs

/-- The numbers of a measurement earn what they claim. -/
def Cleared (plan : ExperimentPlan) (measured : Measured) : Prop :=
  measured.probesFailed = [] ∧
    ∃ statistic ∈ measured.testStatistic,
      statistic.atLeast plan.statistics.luckThresholdZ = .ok true

variable {p : OutcomeVerdict × String}

theorem primaryVerdict_survived (h : primaryVerdict g plan measured = .ok p) :
    p.1 = .survived ↔ Cleared plan measured := by
  unfold primaryVerdict at h; split at h
  · next hnone =>
    cases h; refine ⟨nofun, fun ⟨_, s, hs, _⟩ => ?_⟩; rw [hnone] at hs; cases hs
  · next statistic hsome =>
    split at h
    · next hfailed =>
      cases h; exact ⟨nofun, fun hc => absurd hc.1 hfailed⟩
    next hfailed =>
    obtain ⟨b, hb, h⟩ := except_bind_ok.1 h; have hclears := clears_ok hb
    have hiff : Cleared plan measured ↔ b.1 = true := by
      refine ⟨fun ⟨_, s, hs, hatLeast⟩ => ?_, fun htrue => ⟨not_not.1 hfailed, statistic, hsome, ?_⟩⟩
      · rw [hsome] at hs; cases hs; rw [hclears] at hatLeast
        exact Except.ok.inj hatLeast
      · rw [hclears, htrue]
    rw [hiff]; obtain ⟨b₁, b₂⟩ := b; cases b₁ <;> cases b₂ <;> cases h <;> simp

theorem downgraded_survived : (downgraded p campaign).1 = .survived ↔
      p.1 = .survived ∧ ∀ c ∈ campaign, c.verdict = .survived := by
  cases campaign with
  | none => simp [downgraded]
  | some c =>
    unfold downgraded; dsimp only; split
    · next hp =>
      have hword : campaignVerdicts c.verdict = .survived ↔ c.verdict = .survived := by
        cases c.verdict <;> decide
      rw [hword]; simp only [Option.mem_some_iff, forall_eq']
      exact ⟨fun h => ⟨hp, h⟩, fun h => h.2⟩
    · next hp => exact ⟨fun h => absurd h hp, fun h => absurd h.1 hp⟩

/-- The five terms a survivor was frozen on. -/
structure Survives (g : Grading) (plan : ExperimentPlan) (persisted : Registration)
    (measured : Measured) : Prop where
  probed : ∀ probe ∈ plan.probes, probe ∈ measured.probesRun
  cleared : Cleared plan measured
  production : plan.executionPath = .productionEngine
  campaign : ∀ c ∈ persisted.draft.validationCampaign, ∃ o,
    gradeCampaign g c measured.scenarioMeasurements (g.claim persisted).luckThresholdZ = .ok o ∧
      o.verdict = .survived

theorem gradeValidationCampaign_survived
    (h : gradeValidationCampaign g persisted measured.scenarioMeasurements = .ok campaign) :
    (∀ c ∈ campaign, c.verdict = .survived) ↔
      ∀ c ∈ persisted.draft.validationCampaign, ∃ o, gradeCampaign g c
        measured.scenarioMeasurements (g.claim persisted).luckThresholdZ = .ok o ∧
          o.verdict = .survived := by
  unfold gradeValidationCampaign at h; split at h
  · next hnone =>
    rw [hnone]; split at h
    · cases h; simp
    · cases h
  · next c hsome =>
    rw [hsome]; obtain ⟨o, ho, rfl⟩ := except_map_ok.1 h
    simp only [Option.mem_some_iff, forall_eq']
    refine ⟨fun hv => ⟨o, ho, hv⟩, fun ⟨o', ho', hv⟩ => ?_⟩; rw [ho] at ho'
    cases ho'; exact hv

theorem missingProbes_eq_nil {probesRun : List String} :
    missingProbes plan probesRun = [] ↔ ∀ probe ∈ plan.probes, probe ∈ probesRun := by
  unfold missingProbes; rw [List.filter_eq_nil_iff]
  exact forall₂_congr fun probe _ => by rw [decide_eq_true_eq, not_not]

/-- **The verdict.** A graded measurement survives exactly on the frozen terms. -/
theorem grade_survived (h : grade g plan persisted measured now = .ok o) :
    o.verdict = .survived ↔ Survives g plan persisted measured := by
  unfold grade at h; dsimp only at h; split at h
  · next hmissing =>
    obtain ⟨_, _, h⟩ := except_bind_ok.1 h
    obtain ⟨_, _, h⟩ := except_bind_ok.1 h
    obtain ⟨_, hverdict, _⟩ := construct_ok h; rw [hverdict]
    exact ⟨nofun, fun hs => absurd (missingProbes_eq_nil.2 hs.probed) hmissing⟩
  · next hmissing =>
    obtain ⟨p, hp, h⟩ := except_bind_ok.1 h
    obtain ⟨campaign, hcampaign, h⟩ := except_bind_ok.1 h
    obtain ⟨_, _, h⟩ := except_bind_ok.1 h
    obtain ⟨hplan, hverdict, _, _, hvalid⟩ := construct_ok h
    have hdown : o.verdict = .survived ↔ Cleared plan measured ∧
        ∀ c ∈ campaign, c.verdict = .survived := by
      rw [hverdict, downgraded_survived, primaryVerdict_survived hp]
    have hgraded := gradeValidationCampaign_survived hcampaign; constructor
    · intro hv; obtain ⟨hcleared, hsurvived⟩ := hdown.1 hv
      refine ⟨missingProbes_eq_nil.1 (not_not.1 hmissing), hcleared, ?_, hgraded.1 hsurvived⟩
      rcases hvalid.2 with hfailed | hinconclusive | ⟨_, hsurvivor⟩
      · rw [hv] at hfailed; cases hfailed
      · rw [hv] at hinconclusive; cases hinconclusive
      · rw [← hplan]; exact (hsurvivor hv).2.1
    · intro hs; exact hdown.2 ⟨hs.cleared, hgraded.2 hs.campaign⟩

theorem grade_artifacts (h : grade g plan persisted measured now = .ok o) :
    o.artifactOutcomes.map (·.testId) = plan.artifactTests.map (testId g.toReadings) := by
  unfold grade at h; dsimp only at h; split at h
  · obtain ⟨_, hartifacts, h⟩ := except_bind_ok.1 h
    obtain ⟨_, _, h⟩ := except_bind_ok.1 h; rw [(construct_ok h).2.2.1]
    exact gradeArtifacts_ids hartifacts
  obtain ⟨_, _, h⟩ := except_bind_ok.1 h; obtain ⟨_, _, h⟩ := except_bind_ok.1 h
  obtain ⟨_, hartifacts, h⟩ := except_bind_ok.1 h; rw [(construct_ok h).2.2.1]
  exact gradeArtifacts_ids hartifacts

theorem failedOutcome_ok {detail : String} (h : failedOutcome g plan persisted detail now = .ok o) :
    o.verdict = .failed ∧
      o.artifactOutcomes.map (·.testId) = plan.artifactTests.map (testId g.toReadings) := by
  obtain ⟨_, hartifacts, h⟩ := except_bind_ok.1 h
  obtain ⟨_, _, h⟩ := except_bind_ok.1 h
  obtain ⟨_, hverdict, hsame, _⟩ := construct_ok h
  exact ⟨hverdict, hsame ▸ gradeArtifacts_ids hartifacts⟩

/-! ## What grading raises -/

/-- A defect of the run: it leaves as it is. -/
def Defect (e : RunError) : Prop := e = .validation ∨ e = .arithmetic

/-- Scenarios were measured for a claim that froze no campaign. -/
def Unregistered (persisted : Registration) (measured : Measured) : Prop :=
  persisted.draft.validationCampaign = none ∧ measured.scenarioMeasurements ≠ []

theorem clears_error {statistic : Number} {bar : ℚ} (h : clears statistic bar = .error e) :
    statistic = .nan ∧ e = .arithmetic := by
  cases statistic with
  | nan =>
    cases h; exact ⟨rfl, rfl⟩
  | finite _ | infinite _ =>
    rcases except_bind_error h with h | ⟨survived, _, h⟩
    · cases h
    split at h
    · cases h
    · rcases except_bind_error h with h | ⟨_, _, h⟩ <;> cases h

theorem artifactVerdict_error {results : List ArtifactMeasured}
    (h : artifactVerdict g plan test results = .error e) :
    e = .arithmetic ∧ ∃ m ∈ results, m.testStatistic = some .nan := by
  unfold artifactVerdict at h; split at h
  · cases h
  · cases h
  next m =>
  split at h
  · cases h
  next statistic hstatistic =>
  split at h
  · cases h
  split at h
  · cases h
  split at h
  · cases h
  rcases except_bind_error h with h | ⟨b, _, h⟩
  · obtain ⟨rfl, rfl⟩ := clears_error h
    exact ⟨rfl, m, List.mem_singleton.2 rfl, hstatistic⟩
  · obtain ⟨b₁, b₂⟩ := b; cases b₁ <;> cases b₂ <;> cases h

theorem gradeArtifact_error (h : gradeArtifact g plan ms test = .error e) : Defect e := by
  rcases except_bind_error h with h | ⟨_, _, h⟩
  · exact .inr (artifactVerdict_error h).1
  rcases except_bind_error h with h | ⟨_, _, h⟩
  · exact .inl (textsField_error h)
  rcases except_bind_error h with h | ⟨_, _, h⟩
  · exact .inl (textsField_error h)
  · cases h

theorem gradeArtifacts_error (h : gradeArtifacts g plan ms = .error e) : Defect e := by
  obtain ⟨_, _, htest⟩ := except_mapM_error h; exact gradeArtifact_error htest

theorem gradeValidationCampaign_error {scenarios : List ScenarioMeasured}
    (h : gradeValidationCampaign g persisted scenarios = .error e) :
    Defect e ∨ e = .refused .unregisteredScenarios ∧
      persisted.draft.validationCampaign = none ∧ scenarios ≠ [] := by
  unfold gradeValidationCampaign at h; split at h
  · next hnone =>
    split at h
    · cases h
    next hne =>
    cases h; exact .inr ⟨rfl, hnone, hne⟩
  · next c hsome =>
    cases hgrade : gradeCampaign g c scenarios (g.claim persisted).luckThresholdZ with
    | ok o =>
      rw [hgrade] at h; cases h
    | error e' =>
      rw [hgrade] at h; cases h; exact .inl (gradeCampaign_error hgrade)

theorem primaryVerdict_error (h : primaryVerdict g plan measured = .error e) :
    measured.testStatistic = some .nan ∧ e = .arithmetic := by
  unfold primaryVerdict at h; split at h
  · cases h
  next statistic hstatistic =>
  split at h
  · cases h
  rcases except_bind_error h with h | ⟨b, _, h⟩
  · obtain ⟨rfl, rfl⟩ := clears_error h; exact ⟨hstatistic, rfl⟩
  · obtain ⟨b₁, b₂⟩ := b; cases b₁ <;> cases b₂ <;> cases h

/-- Grading refuses an output for one reason, and everything else it raises is a defect. -/
theorem grade_error (h : grade g plan persisted measured now = .error e) :
    Defect e ∨ e = .refused .unregisteredScenarios ∧ Unregistered persisted measured := by
  unfold grade at h; dsimp only at h; split at h
  · rcases except_bind_error h with h | ⟨_, _, h⟩
    · exact .inl (gradeArtifacts_error h)
    rcases except_bind_error h with h | ⟨_, _, h⟩
    · exact gradeValidationCampaign_error h
    · exact .inl (.inl (construct_error h))
  · rcases except_bind_error h with h | ⟨_, _, h⟩
    · exact .inl (.inr (primaryVerdict_error h).2)
    rcases except_bind_error h with h | ⟨_, _, h⟩
    · exact gradeValidationCampaign_error h
    rcases except_bind_error h with h | ⟨_, _, h⟩
    · exact .inl (gradeArtifacts_error h)
    · exact .inl (.inl (construct_error h))

theorem gradeValidationCampaign_registered
    (h : gradeValidationCampaign g persisted measured.scenarioMeasurements = .ok campaign) :
    ¬ Unregistered persisted measured ∧
      campaign.map (·.campaignId) = campaignId g.toReadings persisted.draft := by
  unfold gradeValidationCampaign at h; unfold Unregistered campaignId
  split at h
  · next hnone =>
    rw [hnone]; split at h
    · next hempty =>
      cases h; exact ⟨fun hu => hu.2 hempty, rfl⟩
    · cases h
  · next c hsome =>
    rw [hsome]; obtain ⟨o, ho, rfl⟩ := except_map_ok.1 h
    exact ⟨fun hu => (by cases hu.1), congrArg some (gradeCampaign_ok ho)⟩

theorem grade_registered (h : grade g plan persisted measured now = .ok o) :
    ¬ Unregistered persisted measured := by
  unfold grade at h; dsimp only at h; split at h
  · obtain ⟨_, _, h⟩ := except_bind_ok.1 h
    obtain ⟨_, hcampaign, _⟩ := except_bind_ok.1 h
    exact (gradeValidationCampaign_registered hcampaign).1
  · obtain ⟨_, _, h⟩ := except_bind_ok.1 h
    obtain ⟨_, hcampaign, _⟩ := except_bind_ok.1 h
    exact (gradeValidationCampaign_registered hcampaign).1

theorem failedOutcome_error {detail : String}
    (h : failedOutcome g plan persisted detail now = .error e) : Defect e := by
  rcases except_bind_error h with h | ⟨_, _, h⟩
  · exact gradeArtifacts_error h
  rcases except_bind_error h with h | ⟨_, _, h⟩
  · exact (gradeValidationCampaign_error h).resolve_right fun hu => hu.2.2 rfl
  · exact .inl (construct_error h)

/-! ## What is graded -/

/-- An output that the fields of an outcome take. -/
structure WellFormed (m : Measured) : Prop where
  decimals : ∀ x ∈ [m.effect, m.confidenceLow, m.confidenceHigh, m.testStatistic],
    ∃ v, decimalField x = .ok v
  probes : ∀ t ∈ m.probesRun ++ m.probesFailed, strip t ≠ ""
  artifacts : ∀ a ∈ m.artifactMeasurements, a.testStatistic ≠ some .nan ∧
    ∀ t ∈ a.probesRun ++ a.probesFailed, strip t ≠ ""

/-- What a run is graded on, as its registration and its plan were frozen. -/
structure Gradable (g : Grading) (plan : ExperimentPlan) (persisted : Registration) : Prop where
  stripped : ∀ probe ∈ plan.probes, strip probe = probe
  bound : plan.validationCampaignId = campaignId g.toReadings persisted.draft
  frozen : ∀ c ∈ persisted.draft.validationCampaign, FrozenCampaign g c
  bar : 0 < (g.claim persisted).luckThresholdZ

theorem textsField_total (h : ∀ t ∈ texts, strip t ≠ "") :
    textsField texts = .ok (texts.map strip) := if_pos h

theorem WellFormed.result (hm : WellFormed measured) {id : String} {f : ArtifactMeasured → List String}
    (hf : ∀ a, ∀ t ∈ f a, t ∈ a.probesRun ++ a.probesFailed) :
    ∀ t ∈ ((measured.artifactMeasurements.filter fun m => m.testId = id).head?.map f).getD [],
      strip t ≠ "" := by
  intro t ht
  cases hhead : (measured.artifactMeasurements.filter fun m => m.testId = id).head? with
  | none =>
    rw [hhead] at ht; cases ht
  | some a =>
    rw [hhead] at ht; have ha := (List.mem_filter.1 (List.mem_of_head? hhead)).1
    exact (hm.artifacts a ha).2 t (hf a t ht)

theorem gradeArtifacts_total (hm : WellFormed measured) :
    ∃ as, gradeArtifacts g plan measured.artifactMeasurements = .ok as := by
  refine except_mapM_total fun test _ => ?_
  cases hgrade : gradeArtifact g plan measured.artifactMeasurements test with
  | ok a => exact ⟨a, rfl⟩
  | error e =>
    unfold gradeArtifact at hgrade; dsimp only at hgrade
    rw [textsField_total (hm.result fun a t ht => List.mem_append_left _ ht),
      textsField_total (hm.result fun a t ht => List.mem_append_right _ ht)] at hgrade
    rcases except_bind_error hgrade with h | ⟨_, _, h⟩
    · obtain ⟨_, m, hmem, hnan⟩ := artifactVerdict_error h
      exact absurd hnan (hm.artifacts m (List.mem_filter.1 hmem).1).1
    · cases h

theorem gradeValidationCampaign_total (hg : Gradable g plan persisted)
    (hreg : ¬ Unregistered persisted measured) :
    ∃ c, gradeValidationCampaign g persisted measured.scenarioMeasurements = .ok c := by
  unfold gradeValidationCampaign
  cases hcampaign : persisted.draft.validationCampaign with
  | none =>
    refine ⟨none, if_pos (not_not.1 fun hne => hreg ⟨hcampaign, hne⟩)⟩
  | some c =>
    obtain ⟨o, ho⟩ := gradeCampaign_total (hg.frozen c hcampaign) measured.scenarioMeasurements
      hg.bar
    exact ⟨some o, except_map_ok.2 ⟨o, ho, rfl⟩⟩

theorem construct_total {fields : OutcomeFields} {artifacts : List ArtifactOutcome}
    {campaign : Option CampaignOutcome}
    (hdecimals : ∀ x ∈ [fields.effect, fields.confidenceLow, fields.confidenceHigh,
      fields.testStatistic], ∃ v, decimalField x = .ok v)
    (hrun : ∀ t ∈ fields.probesRun, strip t ≠ "") (hfailed : ∀ t ∈ fields.probesFailed, strip t ≠ "")
    (hdetail : strip fields.detail ≠ "")
    (hvalid : ∀ o : ExperimentOutcome, o.plan = plan → o.verdict = fields.verdict →
      decimalField fields.testStatistic = .ok o.testStatistic →
      o.probesRun = fields.probesRun.map strip → o.probesFailed = fields.probesFailed.map strip →
      o.validationOutcome = campaign → o.Valid) :
    ∃ o, ExperimentOutcome.construct plan fields artifacts campaign now = .ok o := by
  obtain ⟨effect, heffect⟩ := hdecimals fields.effect (by simp)
  obtain ⟨low, hlow⟩ := hdecimals fields.confidenceLow (by simp)
  obtain ⟨high, hhigh⟩ := hdecimals fields.confidenceHigh (by simp)
  obtain ⟨statistic, hstatistic⟩ := hdecimals fields.testStatistic (by simp)
  unfold ExperimentOutcome.construct
  rw [heffect, hlow, hhigh, hstatistic, textsField_total hrun, textsField_total hfailed]
  dsimp only [bind, Except.bind]
  exact ⟨_, if_pos ⟨hdetail, hvalid _ rfl rfl hstatistic rfl rfl rfl⟩⟩

theorem strip_append_ne {s t : String} (h : ∃ c ∈ s.toList, isSpace c = false) :
    strip (s ++ t) ≠ "" := by
  obtain ⟨c, hc, hspace⟩ := h
  exact strip_ne_empty (String.toList_append ▸ List.mem_append_left _ hc) hspace

theorem primaryVerdict_detail (h : primaryVerdict g plan measured = .ok p) : strip p.2 ≠ "" := by
  unfold primaryVerdict at h; split at h
  · cases h; decide +kernel
  split at h
  · cases h; exact strip_append_ne ⟨'a', by decide +kernel, rfl⟩
  · obtain ⟨⟨b₁, b₂⟩, _, h⟩ := except_bind_ok.1 h
    cases b₁ <;> cases b₂ <;> cases h <;>
      simp only [String.append_assoc] <;> exact strip_append_ne ⟨'t', by decide +kernel, rfl⟩

theorem downgraded_detail (hp : strip p.2 ≠ "") (campaign : Option CampaignOutcome) :
    strip (downgraded p campaign).2 ≠ "" := by
  cases campaign with
  | none => exact hp
  | some c =>
    unfold downgraded; dsimp only; split
    · dsimp only; split
      · exact hp
      · simp only [String.append_assoc]
        exact strip_append_ne ⟨'v', by decide +kernel, rfl⟩
    · exact hp

/-- **Whatever validates is graded.** On the production path, and off it unless the output
earns everything else. -/
theorem grade_total (hg : Gradable g plan persisted) (hm : WellFormed measured)
    (hreg : ¬ Unregistered persisted measured)
    (hpath : (∀ probe ∈ plan.probes, probe ∈ measured.probesRun) → Cleared plan measured →
      plan.executionPath = .productionEngine) :
    ∃ o, grade g plan persisted measured now = .ok o := by
  obtain ⟨artifacts, hartifacts⟩ :
      ∃ as, gradeArtifacts g plan measured.artifactMeasurements = .ok as := gradeArtifacts_total hm
  obtain ⟨campaign, hcampaign⟩ := gradeValidationCampaign_total hg hreg
  have hbound : campaign.map (·.campaignId) = plan.validationCampaignId :=
    (gradeValidationCampaign_registered hcampaign).2.trans hg.bound.symm
  have hrun : ∀ t ∈ measured.probesRun, strip t ≠ "" := fun t ht =>
    hm.probes t (List.mem_append_left _ ht)
  have hfailed : ∀ t ∈ measured.probesFailed, strip t ≠ "" := fun t ht =>
    hm.probes t (List.mem_append_right _ ht)
  obtain ⟨statistic, hstatistic⟩ := hm.decimals measured.testStatistic (by simp)
  unfold grade; dsimp only; split
  · rw [hartifacts, hcampaign]
    refine construct_total (fun x hx => ?_) hrun hfailed ?_ fun o hplan hverdict _ _ _ ho => ?_
    · simp only [List.mem_cons, List.not_mem_nil, or_false] at hx
      rcases hx with rfl | rfl | rfl | rfl
      · exact hm.decimals _ (by simp)
      · exact ⟨none, rfl⟩
      · exact ⟨none, rfl⟩
      · exact ⟨statistic, hstatistic⟩
    · simp only [String.append_assoc]
      exact strip_append_ne ⟨'p', by decide, rfl⟩
    · refine ⟨?_, .inr (.inl hverdict)⟩; unfold campaignBound
      rw [ho, hplan, hbound]
  · next hmissing =>
    have hprobed := missingProbes_eq_nil.1 (not_not.1 hmissing)
    cases hprimary : primaryVerdict g plan measured with
    | error e =>
      obtain ⟨hnan, _⟩ := primaryVerdict_error hprimary; rw [hnan] at hstatistic
      cases hstatistic
    | ok p =>
      have hcase := primaryVerdict_survived hprimary; rw [hcampaign, hartifacts]
      refine construct_total hm.decimals hrun hfailed
        (downgraded_detail (primaryVerdict_detail hprimary) campaign)
        fun o hplan hverdict hstat hprobesRun hprobesFailed ho => ⟨?_, .inr (.inr ⟨?_, ?_⟩)⟩
      · unfold campaignBound; rw [ho, hplan, hbound]
      · rw [hplan, hprobesRun]
        exact fun probe hprobe => List.mem_map.2 ⟨probe, hprobed probe hprobe,
          hg.stripped probe hprobe⟩
      · intro hv; rw [hverdict] at hv
        obtain ⟨hsurvived, hcampaigns⟩ := downgraded_survived.1 hv
        obtain ⟨hnone, s, hs, hbar⟩ := hcase.1 hsurvived
        refine ⟨?_, hplan ▸ hpath hprobed ⟨hnone, s, hs, hbar⟩, ho ▸ hcampaigns, ?_⟩
        · rw [hprobesFailed]; exact List.map_eq_nil_iff.2 hnone
        · rw [Option.mem_def] at hs; rw [hs] at hstat
          cases s with
          | finite q =>
            have hsome : some q = o.testStatistic := Except.ok.inj hstat
            exact ⟨q, hsome.symm, hplan ▸ of_decide_eq_true (Except.ok.inj hbar)⟩
          | infinite _ | nan => cases hstat

theorem grade_unregistered (hm : WellFormed measured) (hu : Unregistered persisted measured) :
    grade g plan persisted measured now = .error (.refused .unregisteredScenarios) := by
  obtain ⟨artifacts, hartifacts⟩ :
      ∃ as, gradeArtifacts g plan measured.artifactMeasurements = .ok as := gradeArtifacts_total hm
  have hcampaign : gradeValidationCampaign g persisted measured.scenarioMeasurements =
      .error (.refused .unregisteredScenarios) := by
    unfold gradeValidationCampaign; rw [hu.1]; exact if_neg hu.2
  unfold grade; dsimp only; split
  · rw [hartifacts, hcampaign]; rfl
  cases hprimary : primaryVerdict g plan measured with
  | error e =>
    obtain ⟨v, hv⟩ := hm.decimals measured.testStatistic (by simp)
    rw [(primaryVerdict_error hprimary).1] at hv; cases hv
  | ok p =>
    rw [hcampaign]; rfl

end outcomes

end Quantbot.L3.Experiment
