import Mathlib.Data.Prod.Lex
import Mathlib.Data.String.Basic
import Quantbot.L3Research.Windows
import Quantbot.L4Learner.Intraday

/-!
# Records of the learner

The evidence records of `learner/data.py` and `learner/models.py`: datasets of labelled rows, the
versions of a model, predictions, outcomes and evaluations. `normalized` is what the validators
rewrite of a record, `Checks` what they ask of the rewritten one; a record that `Stands` passes
both as it is.

* `Dataset.normalized_idem` and its fellows: what was normalized once stays as it is.
* `Prediction.Timely`: the clock a prospective prediction is created under.
-/
namespace Quantbot.L4.Learner

open Core L1 L3.Registry
open L4.Intraday (minute Floats FittedEstimator sorted)

/-- What the learner computes of floats; `same` is `==`. -/
structure Arithmetic (F : Type) extends Floats F where
  same : F → F → Bool
  /-- `math.isclose(math.fsum(weights), len(weights))`. -/
  meanOne : List F → Bool
  /-- The mean of the squared differences. -/
  mse : List (F × F) → Option F

variable {F : Type} (fl : Arithmetic F)

/-- Equal, place by place. -/
def Arithmetic.sameAll (xs ys : List F) : Bool :=
  xs.length = ys.length ∧ (xs.zip ys).all fun (x, y) => fl.same x y

/-- The pattern `^[0-9a-f]{64}$`. -/
def isSha256 (s : String) : Bool :=
  let cs := s.toList
  cs.length = 64 ∧ cs.all fun c => c.isDigit ∨ ('a' ≤ c ∧ c ≤ 'f')

/-! ## Estimators -/

def families : List String := ["mean", "quadratic_ridge", "ridge"]

/-- `_ALGORITHM_VERSIONS`. -/
def algorithmVersion (family : String) : String :=
  if family = "mean" then "mean-v1"
  else if family = "quadratic_ridge" then "quadratic-ridge-squares-cholesky-v1"
  else "ridge-cholesky-v1"

/-- mirrors estimators.py:60-136 -/
def artifactChecks (a : FittedEstimator F) : Prop :=
  let width := if a.family = "quadratic_ridge" then a.featureNames.length * 2
    else a.featureNames.length
  a.family ∈ families ∧ a.featureNames ≠ [] ∧ (∀ n ∈ a.featureNames, strip n ≠ "") ∧
    a.featureNames.Nodup ∧ (∀ x ∈ a.means ++ a.scales ++ a.coefficients, fl.finite x = true) ∧
    fl.finite a.intercept = true ∧ fl.finite a.alpha = true ∧ fl.finite a.trainingMse = true ∧
    a.means.length = width ∧ a.scales.length = width ∧ a.coefficients.length = width ∧
    (∀ x ∈ a.scales, fl.positive x = true) ∧ fl.positive a.alpha = true ∧
    fl.nonneg a.trainingMse = true ∧
    match a.sampleWeights with
    | none => a.algorithmVersion = algorithmVersion a.family
    | some weights => weights ≠ [] ∧
        (∀ w ∈ weights, fl.finite w = true ∧ fl.positive w = true) ∧ fl.meanOne weights = true ∧
        a.algorithmVersion = "weighted-" ++ algorithmVersion a.family

instance (a : FittedEstimator F) : Decidable (artifactChecks fl a) := by
  unfold artifactChecks
  have hweights : Decidable (match a.sampleWeights with
      | none => a.algorithmVersion = algorithmVersion a.family
      | some weights => weights ≠ [] ∧
          (∀ w ∈ weights, fl.finite w = true ∧ fl.positive w = true) ∧ fl.meanOne weights = true ∧
          a.algorithmVersion = "weighted-" ++ algorithmVersion a.family) := by
    split <;> infer_instance
  infer_instance

def sameWeights : Option (List F) → Option (List F) → Bool
  | none, none => true
  | some v, some w => fl.sameAll v w
  | _, _ => false

/-- `==` of two artifacts. -/
def sameArtifact (a b : FittedEstimator F) : Bool :=
  a.family = b.family ∧ a.featureNames = b.featureNames ∧ fl.sameAll a.means b.means ∧
    fl.sameAll a.scales b.scales ∧ fl.sameAll a.coefficients b.coefficients ∧
    fl.same a.intercept b.intercept ∧ fl.same a.alpha b.alpha ∧
    fl.same a.trainingMse b.trainingMse ∧ a.seed = b.seed ∧
    a.algorithmVersion = b.algorithmVersion ∧ sameWeights fl a.sampleWeights b.sampleWeights

/-! ## Rows -/

/-- `FEATURE_NAMES`. -/
def dailyNames : List String :=
  ["return_1d", "return_5d", "return_20d", "return_60d", "realized_volatility_20d",
    "volume_change_20d", "relative_strength_20d", "distance_sma_20d", "distance_sma_60d",
    "momentum_acceleration", "market_return_20d", "market_volatility_20d"]

/-- mirrors data.py:86-106 -/
structure FeatureRow (F : Type) where
  asOf : Int
  inputStartAt : Int
  targetAt : Int
  asofSessionIndex : Int
  targetSessionIndex : Int
  calendarHash : String
  symbol : String
  universeId : String
  sourceId : String
  featureSet : String := "daily-alpha-v1"
  horizon : Int := 5
  benchmarkSymbol : String := "SPY"
  baseClose : F
  benchmarkClose : F
  values : List F
  sourceHash : String
deriving DecidableEq

def FeatureRow.normalized (r : FeatureRow F) : FeatureRow F :=
  { r with
    symbol := strip r.symbol
    universeId := strip r.universeId
    sourceId := strip r.sourceId
    featureSet := strip r.featureSet
    benchmarkSymbol := strip r.benchmarkSymbol }

/-- mirrors data.py:108-131 -/
def FeatureRow.Checks (r : FeatureRow F) : Prop :=
  0 ≤ r.asofSessionIndex ∧ 1 ≤ r.targetSessionIndex ∧ isSha256 r.calendarHash = true ∧
    r.symbol ≠ "" ∧ r.universeId ≠ "" ∧ r.sourceId ≠ "" ∧ r.benchmarkSymbol ≠ "" ∧
    isSha256 r.sourceHash = true ∧
    fl.finite r.baseClose = true ∧ fl.positive r.baseClose = true ∧
    fl.finite r.benchmarkClose = true ∧ fl.positive r.benchmarkClose = true ∧
    r.symbol = r.symbol.toUpper ∧ r.benchmarkSymbol = r.benchmarkSymbol.toUpper ∧
    r.inputStartAt ≤ r.asOf ∧ r.asOf < r.targetAt ∧
    r.featureSet = "daily-alpha-v1" ∧ r.horizon = 5 ∧
    r.targetSessionIndex - r.asofSessionIndex = r.horizon ∧
    r.values.length = dailyNames.length ∧ ∀ x ∈ r.values, fl.finite x = true

instance (r : FeatureRow F) : Decidable (r.Checks fl) := by
  unfold FeatureRow.Checks
  infer_instance

/-- mirrors data.py:138-148 -/
structure LabelRow (F : Type) where
  features : FeatureRow F
  role : DataRole
  rawReturn : F
  benchmarkReturn : F
  excessReturn : F
  targetSourceHash : String
deriving DecidableEq

def LabelRow.normalized (r : LabelRow F) : LabelRow F :=
  { r with features := r.features.normalized }

def LabelRow.Checks (r : LabelRow F) : Prop :=
  r.features.Checks fl ∧ fl.finite r.rawReturn = true ∧ fl.finite r.benchmarkReturn = true ∧
    fl.finite r.excessReturn = true ∧ isSha256 r.targetSourceHash = true ∧
    fl.same r.excessReturn (fl.sub r.rawReturn r.benchmarkReturn) = true

instance (r : LabelRow F) : Decidable (r.Checks fl) := by
  unfold LabelRow.Checks
  infer_instance

/-! ## Datasets -/

/-- mirrors data.py:175-187 -/
structure Dataset (F : Type) where
  rows : List (LabelRow F)
  trainWindow : DataWindow
  validationWindow : DataWindow
  holdoutWindow : DataWindow
  featureNames : List String := dailyNames
  universeId : String
  sourceId : String
  sourceEvidence : String := "LOCAL_DECLARED"
  symbols : List String
deriving DecidableEq

def roleOrder : DataRole → ℕ
  | .discovery => 0
  | .validation => 1
  | _ => 2

/-- The key `canonicalize_rows` sorts by. -/
def LabelRow.place (r : LabelRow F) : ℕ ×ₗ Int ×ₗ String ×ₗ String ×ₗ Int :=
  toLex (roleOrder r.role, toLex (r.features.asOf, toLex (r.features.symbol,
    toLex (r.features.featureSet, r.features.horizon))))

def LabelRow.NotAfter (a b : LabelRow F) : Prop := a.place ≤ b.place
deriving Decidable

instance : IsTrans (LabelRow F) LabelRow.NotAfter := ⟨fun _ _ _ => le_trans⟩

instance : Std.Total (α := LabelRow F) LabelRow.NotAfter := ⟨fun a b => le_total a.place b.place⟩

def windowNormalized (w : DataWindow) : DataWindow :=
  { w with dataset := strip w.dataset, snapshot := strip w.snapshot }

/-- What the validators rewrite: padded texts, and the order of the rows. -/
def Dataset.normalized (d : Dataset F) : Dataset F :=
  { d with
    rows := (d.rows.map LabelRow.normalized).insertionSort LabelRow.NotAfter
    trainWindow := windowNormalized d.trainWindow
    validationWindow := windowNormalized d.validationWindow
    holdoutWindow := windowNormalized d.holdoutWindow
    universeId := strip d.universeId
    sourceId := strip d.sourceId }

/-- mirrors data.py:263-283 -/
def Dataset.Windows (d : Dataset F) : Prop :=
  d.trainWindow.role = .discovery ∧ d.validationWindow.role = .validation ∧
    d.holdoutWindow.role = .protectedEvaluation ∧
    d.trainWindow.dataset = d.validationWindow.dataset ∧
    d.trainWindow.dataset = d.holdoutWindow.dataset ∧
    d.trainWindow.snapshot = d.validationWindow.snapshot ∧
    d.trainWindow.snapshot = d.holdoutWindow.snapshot ∧
    d.trainWindow.dataset ≠ "" ∧ d.trainWindow.snapshot ≠ "" ∧
    d.trainWindow.finish < d.validationWindow.start ∧
    d.validationWindow.finish < d.holdoutWindow.start

/-- A row inside the window of its role, purged before the next one. -/
def Dataset.Placed (d : Dataset F) (r : LabelRow F) : Prop :=
  let active := if r.role = .discovery then d.trainWindow else d.validationWindow
  let next := if r.role = .discovery then d.validationWindow else d.holdoutWindow
  (r.role = .discovery ∨ r.role = .validation) ∧ r.features.universeId = d.universeId ∧
    r.features.sourceId = d.sourceId ∧ active.start ≤ utcDate r.features.asOf ∧
    utcDate r.features.asOf ≤ active.finish ∧ utcDate r.features.targetAt ≤ active.finish ∧
    utcDate r.features.targetAt < next.start
deriving Decidable

def LabelRow.observation (r : LabelRow F) : DataRole × String × Int × String × Int :=
  (r.role, r.features.symbol, r.features.asOf, r.features.featureSet, r.features.horizon)

/-- mirrors data.py:203-243 -/
def Dataset.Checks (d : Dataset F) : Prop :=
  (d.rows ≠ [] ∧ d.symbols ≠ [] ∧ d.universeId ≠ "" ∧ d.sourceId ≠ "" ∧
    d.sourceEvidence = "LOCAL_DECLARED" ∧ ∀ r ∈ d.rows, r.Checks fl) ∧
  d.Windows ∧ d.featureNames = dailyNames ∧ d.symbols = sorted d.symbols.dedup ∧
    (∀ r ∈ d.rows, d.Placed r) ∧ (d.rows.map LabelRow.observation).Nodup ∧
    (∃ r ∈ d.rows, r.role = .discovery) ∧ (∃ r ∈ d.rows, r.role = .validation) ∧
    (∀ r ∈ d.rows, r.features.symbol ∈ d.symbols) ∧
    ∀ s ∈ d.symbols, ∃ r ∈ d.rows, r.features.symbol = s

instance (d : Dataset F) : Decidable (d.Checks fl) := by
  unfold Dataset.Checks Dataset.Windows
  infer_instance

/-! ## Models -/

/-- mirrors manifest.py:197-207 -/
structure EnvironmentFingerprint where
  pythonVersion : String
  platform : String
  dependencyLockHash : String
  hostClass : String
  randomSeed : Option Int := none
  deterministic : Bool := true
deriving DecidableEq, Repr

def EnvironmentFingerprint.normalized (e : EnvironmentFingerprint) : EnvironmentFingerprint :=
  { e with
    pythonVersion := strip e.pythonVersion
    platform := strip e.platform
    dependencyLockHash := strip e.dependencyLockHash
    hostClass := strip e.hostClass }

/-- mirrors models.py:38-61 -/
structure ModelVersion (F : Type) where
  modelId : String
  datasetId : String
  createdAt : Int
  family : String
  artifact : FittedEstimator F
  artifactHash : String
  featureSet : String
  horizon : Int := 5
  trainingStart : Int
  trainingEnd : Int
  validationStart : Int
  validationEnd : Int
  trainingObservationIds : List String
  validationObservationIds : List String
  validationMse : F
  codeCommit : String
  codeDirty : Bool
  codeHash : String
  environment : EnvironmentFingerprint
  parentModelId : Option String := none
  version : Int := 1
  generationVersion : String := "learner-v1"
deriving DecidableEq

def ModelVersion.normalized (m : ModelVersion F) : ModelVersion F :=
  { m with environment := m.environment.normalized }

/-- `artifactId` is the content id of an artifact.
mirrors models.py:63-85 -/
def ModelVersion.Checks (artifactId : FittedEstimator F → String) (m : ModelVersion F) : Prop :=
  (m.modelId ≠ "" ∧ m.datasetId ≠ "" ∧ m.family ≠ "" ∧ artifactChecks fl m.artifact ∧
    m.artifactHash ≠ "" ∧ m.featureSet ≠ "" ∧ 1 ≤ m.horizon ∧ m.trainingObservationIds ≠ [] ∧
    m.validationObservationIds ≠ [] ∧ fl.finite m.validationMse = true ∧
    fl.nonneg m.validationMse = true ∧ m.codeCommit ≠ "" ∧ m.codeHash ≠ "" ∧
    m.environment.pythonVersion ≠ "" ∧ m.environment.platform ≠ "" ∧
    m.environment.dependencyLockHash ≠ "" ∧ m.environment.hostClass ≠ "" ∧ 1 ≤ m.version) ∧
  m.artifactHash = artifactId m.artifact ∧ m.family = m.artifact.family ∧
    m.trainingStart ≤ m.trainingEnd ∧ m.trainingEnd < m.validationStart ∧
    m.validationStart ≤ m.validationEnd ∧ m.validationEnd < m.createdAt ∧
    (∀ i ∈ m.trainingObservationIds, i ∉ m.validationObservationIds) ∧
    m.trainingObservationIds.Nodup ∧ m.validationObservationIds.Nodup ∧
    (m.parentModelId = none ↔ m.version = 1)

instance (artifactId : FittedEstimator F → String) (m : ModelVersion F) :
    Decidable (m.Checks fl artifactId) := by
  unfold ModelVersion.Checks
  infer_instance

/-! ## Predictions, outcomes, evaluations -/

inductive EvaluationClass | historicalReplay | prospectiveLocal | shadow
deriving DecidableEq, Repr

def EvaluationClass.value : EvaluationClass → String
  | .historicalReplay => "HISTORICAL_REPLAY"
  | .prospectiveLocal => "PROSPECTIVE_LOCAL"
  | .shadow => "SHADOW"

/-- mirrors models.py:88-97 -/
structure Prediction (F : Type) where
  predictionId : String
  modelId : String
  features : FeatureRow F
  evaluationClass : EvaluationClass
  createdAt : Int
  score : F
  rank : Int
  percentile : F
  cohortId : String
deriving DecidableEq

def Prediction.normalized (p : Prediction F) : Prediction F :=
  { p with features := p.features.normalized }

/-- mirrors models.py:99-113 -/
def Prediction.Timely (p : Prediction F) : Prop :=
  p.features.asOf ≤ p.createdAt ∧ (p.evaluationClass ≠ .historicalReplay →
    p.createdAt < p.features.targetAt ∧ p.createdAt ≤ p.features.asOf + 5 * minute)

def Prediction.Checks (p : Prediction F) : Prop :=
  p.predictionId ≠ "" ∧ p.modelId ≠ "" ∧ p.features.Checks fl ∧ fl.finite p.score = true ∧
    1 ≤ p.rank ∧ fl.finite p.percentile = true ∧ fl.nonneg p.percentile = true ∧
    fl.nonneg (fl.sub (fl.ofDecimal 1) p.percentile) = true ∧ p.cohortId ≠ "" ∧ p.Timely

instance (p : Prediction F) : Decidable (p.Checks fl) := by
  unfold Prediction.Checks Prediction.Timely
  infer_instance

/-- mirrors models.py:116-126 -/
structure Outcome (F : Type) where
  predictionId : String
  resolvedAt : Int
  rawReturn : F
  benchmarkReturn : F
  excessReturn : F
  error : F
  sourceHash : String
  targetClose : F
  benchmarkClose : F
  availableAt : Int
deriving DecidableEq

/-- mirrors models.py:128-134 -/
def Outcome.Checks (o : Outcome F) : Prop :=
  o.predictionId ≠ "" ∧ fl.finite o.rawReturn = true ∧ fl.finite o.benchmarkReturn = true ∧
    fl.finite o.excessReturn = true ∧ fl.finite o.error = true ∧ o.sourceHash ≠ "" ∧
    fl.finite o.targetClose = true ∧ fl.positive o.targetClose = true ∧
    fl.finite o.benchmarkClose = true ∧ fl.positive o.benchmarkClose = true ∧
    fl.same o.excessReturn (fl.sub o.rawReturn o.benchmarkReturn) = true ∧
    o.availableAt ≤ o.resolvedAt

instance (o : Outcome F) : Decidable (o.Checks fl) := by
  unfold Outcome.Checks
  infer_instance

/-- mirrors models.py:137-144 -/
structure Evaluation where
  evaluationId : String
  modelId : String
  evaluationClass : EvaluationClass
  createdAt : Int
  metricsJson : String
  predictionIds : List String
  expectedPredictionIds : List String
deriving DecidableEq, Repr

/-- mirrors models.py:146-154 -/
def Evaluation.Checks (e : Evaluation) : Prop :=
  (e.evaluationId ≠ "" ∧ e.modelId ≠ "" ∧ e.metricsJson ≠ "" ∧ e.predictionIds ≠ [] ∧
    e.expectedPredictionIds ≠ []) ∧
  e.predictionIds.Nodup ∧ e.expectedPredictionIds.Nodup ∧ e.predictionIds ⊆ e.expectedPredictionIds

instance (e : Evaluation) : Decidable e.Checks := by
  unfold Evaluation.Checks
  infer_instance

/-! ## Normalizing twice -/

@[simp] theorem FeatureRow.normalized_idem (r : FeatureRow F) :
    r.normalized.normalized = r.normalized := by
  unfold normalized; simp only [strip_strip]

@[simp] theorem LabelRow.normalized_idem (r : LabelRow F) :
    r.normalized.normalized = r.normalized := by
  unfold normalized; simp only [FeatureRow.normalized_idem]

theorem windowNormalized_idem (w : DataWindow) :
    windowNormalized (windowNormalized w) = windowNormalized w := by
  unfold windowNormalized; simp only [strip_strip]

theorem Dataset.normalized_idem (d : Dataset F) : d.normalized.normalized = d.normalized := by
  -- the sorted rows are normalized rows, in order
  have hmap : (d.normalized.rows.map LabelRow.normalized) = d.normalized.rows := by
    refine (List.map_congr_left fun r hr => ?_).trans (List.map_id _)
    obtain ⟨r₀, _, rfl⟩ := List.mem_map.1 ((List.mem_insertionSort _).1 hr)
    exact r₀.normalized_idem
  have hrows : (d.normalized.rows.map LabelRow.normalized).insertionSort LabelRow.NotAfter =
      d.normalized.rows := by
    rw [hmap]
    exact (List.pairwise_insertionSort LabelRow.NotAfter _).insertionSort_eq
  unfold normalized at hrows ⊢
  simp only [windowNormalized_idem, strip_strip, hrows]

@[simp] theorem EnvironmentFingerprint.normalized_idem (e : EnvironmentFingerprint) :
    e.normalized.normalized = e.normalized := by
  unfold normalized; simp only [strip_strip]

theorem ModelVersion.normalized_idem (m : ModelVersion F) :
    m.normalized.normalized = m.normalized := by
  unfold normalized; simp only [EnvironmentFingerprint.normalized_idem]

theorem Prediction.normalized_idem (p : Prediction F) : p.normalized.normalized = p.normalized := by
  unfold normalized; simp only [FeatureRow.normalized_idem]

end Quantbot.L4.Learner
