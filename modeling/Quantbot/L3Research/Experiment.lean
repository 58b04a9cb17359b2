import Quantbot.L3Research.Memory
import Quantbot.L3Research.Promotion
import Quantbot.L3Research.Registry

/-!
# Compiled experiments

`compile_experiment` turns a frozen registration and the dataset snapshots of a run into a
plan, or refuses. A plan names its claim by the registration's hash and carries what the claim
froze: its statistic and bar, its probes, its campaign.

What a registration, an artifact test and a scenario hold beside the modelled columns is read
through `Readings`.

* `compileExperiment_ok`: what a compiled plan carries.
-/
namespace Quantbot.L3.Experiment

open Core L2 Registry
open Memory (GraphArtifactKind)
open Promotion (Comparison ExecutionPath StatisticalTest)

/-! ## What documents say -/

inductive Estimand
  | sharpe | meanDifference | crossSectionalSpread | hitRate | informationCoefficient
deriving DecidableEq

inductive ConstraintOperator | atLeast | atMost
deriving DecidableEq

/-- mirrors validation_campaign.py:96-106 -/
structure RegimeConstraint where
  metric : String
  operator : ConstraintOperator
  threshold : ℚ
deriving DecidableEq

/-- The claim of a registration: its graph, its effect, its universe and its power assessment. -/
structure ClaimFacts where
  graphHash : Option String
  uneconomic : Bool
  estimand : Estimand
  comparison : Comparison
  /-- The universe. -/
  instruments : List String
  /-- The round trip cost and the rebalances a year it assumes. -/
  economics : Option (String × String)
  cumulativeTrials : Nat
  luckThresholdZ : ℚ
  minimumDetectableEffect : String
  overridden : Bool

structure TestFacts where
  graphHash : Option String
  artifactKind : GraphArtifactKind
  artifactContentId : String
  luckThresholdZ : ℚ
  overridden : Bool

/-- mirrors validation_campaign.py:162-185 -/
structure ScenarioFacts where
  scenarioId : String
  observedMarket : Bool
  /-- The fit period and its role. -/
  fit : Option (Int × Int × String)
  required : Bool
  minimumTrades : Nat
  minimumEffectiveObservations : Nat
  regimeConstraints : List RegimeConstraint

/-- What is read from stored documents beside the modelled columns. -/
structure Readings where
  contentId : ContentId
  claim : Registration → ClaimFacts
  test : ArtifactTest → TestFacts
  scenario : ValidationScenario → ScenarioFacts

/-! ## Plans -/

/-- mirrors manifest.py:210-228 -/
structure DatasetSnapshot where
  dataset : String
  snapshot : String
  role : DataRole
  start : Int
  finish : Int
  contentHash : String
  provider : String := "unrecorded"
  retrievedAt : Option Int := none
  earliestAvailableAt : Option Int := none
  transformationVersion : String := "unrecorded"
deriving DecidableEq

structure StatisticalPlan where
  test : StatisticalTest
  comparison : Comparison
  cumulativeTrials : Nat
  luckThresholdZ : ℚ
  minimumDetectableEffect : String
deriving DecidableEq

/-- mirrors builder.py:155-191 -/
structure ExperimentPlan where
  hypothesisId : String
  hypothesisVersion : Nat
  registrationHash : String
  hypothesisGraphHash : Option String
  statistics : StatisticalPlan
  datasets : List DatasetSnapshot
  costs : List (String × String)
  probes : List String
  executionPath : ExecutionPath
  artifactTests : List ArtifactTest
  validationCampaignId : Option String
deriving DecidableEq

def ExperimentPlan.protectedSnapshots (plan : ExperimentPlan) : List DatasetSnapshot :=
  plan.datasets.filter fun snapshot => snapshot.role = .protectedEvaluation

/-! ## Compilation -/

/-- mirrors builder.py:65-83 -/
def testFor : Estimand → Comparison → Option StatisticalTest
  | .sharpe, .paired => some .jobsonKorkieMemmel
  | .sharpe, .unpaired => some .welchT
  | .sharpe, .singleSample => some .oneSampleT
  | .meanDifference, .paired | .crossSectionalSpread, .paired => some .pairedT
  | .meanDifference, .unpaired | .crossSectionalSpread, .unpaired => some .welchT
  | .meanDifference, .singleSample | .crossSectionalSpread, .singleSample => some .oneSampleT
  | .hitRate, .singleSample => some .binomial
  | .informationCoefficient, .singleSample => some .spearman
  | .hitRate, _ | .informationCoefficient, _ => none

inductive CompilationError
  | uneconomic | missingDataset | noAvailability | artifactTestMismatched | noValidTest
  /-- The plan's own validator. -/
  | invalidPlan
deriving DecidableEq

/-- mirrors builder.py:128-152 -/
def selectTest (estimand : Estimand) (comparison : Comparison) (pathDependent : Bool) :
    Except CompilationError StatisticalTest :=
  if pathDependent then .ok .stationaryBootstrap
  else match testFor estimand comparison with
    | none => .error .noValidTest
    | some chosen => if comparison ∈ chosen.validFor then .ok chosen else .error .noValidTest

def requiredProbes : List String :=
  ["shifted-feature-probe", "cost-ladder", "regime-split", "hidden-beta"]

def generalityProbe : String := "cross-asset-generality"

section compile

variable (r : Readings)

def testId (t : ArtifactTest) : String :=
  r.contentId (.testId t.hypothesisId t.hypothesisVersion t.registrationHash t.design)

def campaignId (d : HypothesisDraft) : Option String :=
  d.validationCampaign.map fun c => r.contentId (.campaign c)

/-- The artifact test was frozen against this registration and its graph. -/
def Matches (registration : Registration) (t : ArtifactTest) : Prop :=
  t.hypothesisId = registration.draft.hypothesisId ∧
    t.hypothesisVersion = registration.draft.version ∧
    t.registrationHash = r.contentId (.registration registration) ∧
    (r.test t).graphHash = (r.claim registration).graphHash
deriving Decidable

/-- The plan of a claim on the data of a run. -/
def planOf (registration : Registration) (datasets : List DatasetSnapshot)
    (path : ExecutionPath) (tests : List ArtifactTest) (test : StatisticalTest) :
    ExperimentPlan where
  hypothesisId := registration.draft.hypothesisId
  hypothesisVersion := registration.draft.version
  registrationHash := r.contentId (.registration registration)
  hypothesisGraphHash := (r.claim registration).graphHash
  statistics := {
    test := test
    comparison := (r.claim registration).comparison
    cumulativeTrials := (r.claim registration).cumulativeTrials
    luckThresholdZ := (r.claim registration).luckThresholdZ
    minimumDetectableEffect := (r.claim registration).minimumDetectableEffect }
  datasets := datasets
  costs :=
    let (cost, rebalances) := ((r.claim registration).economics).getD ("0", "0")
    [("round_trip_cost_bps", cost), ("annual_rebalances", rebalances)]
  probes := requiredProbes ++
    if 1 < (r.claim registration).instruments.length then [generalityProbe] else []
  executionPath := path
  artifactTests := tests
  validationCampaignId := campaignId r registration.draft

/-- mirrors builder.py:194-290 -/
def compileExperiment (registration : Registration) (datasets : List DatasetSnapshot)
    (path : ExecutionPath) (pathDependent : Bool) (tests : List ArtifactTest) :
    Except CompilationError ExperimentPlan :=
  if (r.claim registration).uneconomic then .error .uneconomic
  else if ¬ ∀ w ∈ registration.draft.windows,
      (w.dataset, w.role) ∈ datasets.map fun s => (s.dataset, s.role) then .error .missingDataset
  else if ¬ ∀ s ∈ datasets, s.earliestAvailableAt ≠ none then .error .noAvailability
  else if ¬ ∀ t ∈ tests, Matches r registration t then .error .artifactTestMismatched
  else do
    let test ← selectTest (r.claim registration).estimand (r.claim registration).comparison
      pathDependent
    if datasets = [] ∨ ¬ (tests.map (testId r)).Nodup then .error .invalidPlan
    else .ok (planOf r registration datasets path tests test)

/-- **A compiled plan** is the claim's own, on data that covers the claim's windows by name. -/
theorem compileExperiment_ok {registration : Registration} {datasets : List DatasetSnapshot}
    {path : ExecutionPath} {pathDependent : Bool} {tests : List ArtifactTest}
    {plan : ExperimentPlan}
    (h : compileExperiment r registration datasets path pathDependent tests = .ok plan) :
    (∃ test, plan = planOf r registration datasets path tests test) ∧
      (∀ w ∈ registration.draft.windows,
        (w.dataset, w.role) ∈ datasets.map fun s => (s.dataset, s.role)) ∧
      (∀ s ∈ datasets, s.earliestAvailableAt ≠ none) ∧ datasets ≠ [] ∧
      (tests.map (testId r)).Nodup := by
  unfold compileExperiment at h; split at h
  · cases h
  split at h
  · cases h
  next hdeclared =>
  split at h
  · cases h
  next havailable =>
  split at h
  · cases h
  obtain ⟨test, -, h⟩ := Txn.except_bind_ok.1 h; split at h
  · cases h
  next hvalid =>
  cases h; rw [not_or, not_not] at hvalid
  exact ⟨⟨test, rfl⟩, not_not.1 hdeclared, not_not.1 havailable, hvalid.1, hvalid.2⟩

end compile

end Quantbot.L3.Experiment
