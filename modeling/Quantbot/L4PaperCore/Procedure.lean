import Quantbot.L4Learner.Intraday
import Quantbot.L4PaperCore.Learning

/-!
# The walk-forward procedure

`run_procedure` (`paper_core/learning_procedure.py`): five expanding fits, each scored on a later
session beside the models that were live then, and a refit on all history where they pass.

The arithmetic of floats and the estimators are parameters (`Numerics`), and so is the id of a
model. What an assertion or an overflow raises is one error; the texts of the rest are theirs.
-/
namespace Quantbot.L4.Procedure

open L2 Learning Intraday

/-! ## Numbers -/

/-- Floats as the procedure uses them, `fit_estimator` and `predict`; what overflows or refuses
has no result. -/
structure Numerics (F : Type) where
  zero : F
  one : F
  two : F
  sub : F → F → F
  square : F → Option F
  fsum : List F → Option F
  div : F → ℕ → Option F
  max : F → F → F
  min : F → F → F
  lt : F → F → Bool
  /-- `(1 - improvement) * x`. -/
  reduced : F → F
  /-- `max(-100.0, min(100.0, x))`. -/
  clip : F → F
  finite : F → Bool
  /-- `float(pnl / notional * 10000)`. -/
  returnBps : ℚ → ℚ → Option F
  fit : List (List F) → List F → Option (List F) → Except String (FittedEstimator F)
  predict : FittedEstimator F → List (List F) → Option (List F)

inductive ProcedureError
  | value (text : String)
  | arithmetic
deriving DecidableEq, Repr

def raised {α : Type} : Option α → Except ProcedureError α
  | some a => .ok a
  | none => .error .arithmetic

/-- `if c: raise ValueError(text)`. -/
def refuse (c : Prop) [Decidable c] (text : String) : Except ProcedureError Unit :=
  if c then .error (.value text) else .ok ()

/-! ## Documents -/

inductive TripStatus | costsPending | complete
deriving DecidableEq, Repr

/-- The fields of a `RoundTrip` the procedure reads. -/
structure Trip where
  id : String
  status : TripStatus
  costReason : String
  reconciliationId : String
  netPnl : Option ℚ
  grossPnl : ℚ
  entryNotional : ℚ
  policyId : String
  dataset : String
  evidenceLane : EvidenceLane
  sourceStart : Option Int
  sourceEnd : Option Int
  availableAt : Option Int
deriving DecidableEq

/-- The fields of an `Observation` the procedure reads. -/
structure Features (F : Type) where
  recordedAt : Int
  sourceStart : Int
  sourceEnd : Int
  availableAt : Int
  featureVersion : String
  features : List (String × F)
deriving DecidableEq

/-- mirrors contracts.py:805-810 -/
structure LearningEpisode (F : Type) where
  outcome : Trip
  observation : Features F
  session : Int
deriving DecidableEq

/-- mirrors contracts.py:345-360 -/
structure ModelArtifact (F : Type) where
  mode : ModelMode := .collect
  description : String := "nonpredictive baseline; no fitted model"
  featureVersion : String := "synthetic-causal-v1"
  learningReceiptId : String := "M1_NO_LEARNING"
  estimator : Option (FittedEstimator F) := none
  targetContract : Option String := none
  policyId : Option String := none
  parentModelId : Option String := none
  inputIds : List String := []
  fixtureAuthority : Option String := none
  constantBps : Option F := none
deriving DecidableEq

/-- mirrors contracts.py:907-919 -/
structure LearningFold (F : Type) where
  session : Int
  cutoff : Int
  training : List (LearningEpisode F)
  validation : List (LearningEpisode F)
  historicalModelIds : List String
  historicalModels : List (ModelArtifact F)
  historicalAvailableAt : List (Option Int)
  historicalReceiptIds : List (Option String)
  historicalAcknowledgementIds : List (Option String)
  historicalAcknowledgementAvailableAt : List (Option Int)
deriving DecidableEq

/-- mirrors contracts.py:882-891 -/
structure SessionMetrics (F : Type) where
  session : Int
  outcomeIds : List String
  actualBps : List F
  candidateBps : List F
  incumbentBps : List F
  constantBps : List F
  candidateMse : F
  incumbentMse : F
  constantMse : F
deriving DecidableEq

/-- mirrors contracts.py:922-935 -/
structure FoldResult (F : Type) where
  session : Int
  cutoff : Int
  trainingIds : List String
  validationIds : List String
  scoringAvailableAt : List Int
  rawWeights : List F
  artifact : ModelArtifact F
  historicalModelIds : List String
  historicalAvailableAt : List (Option Int)
  historicalReceiptIds : List (Option String)
  historicalAcknowledgementIds : List (Option String)
  historicalAcknowledgementAvailableAt : List (Option Int)
  scores : SessionMetrics F
deriving DecidableEq

/-- The figures of the procedure, under the names they are sorted by. -/
structure Metrics (F : Type) where
  candidateMse : F
  candidateWorstSessionMse : F
  constantMse : F
  constantWorstSessionMse : F
  incumbentMse : F
  incumbentWorstSessionMse : F
deriving DecidableEq

/-- mirrors contracts.py:938-944 -/
structure ProcedureResult (F : Type) where
  candidate : Option (ModelArtifact F) := none
  folds : List (FoldResult F)
  metrics : Metrics F
  sessionMetrics : List (SessionMetrics F)
  gatesPassed : Bool
  finalRawWeights : List F := []
deriving DecidableEq

/-- mirrors five_minute.py:24-35 -/
def featureNames : List String :=
  ["return_5m", "return_15m", "return_30m", "realized_volatility_15m", "relative_strength_15m",
    "distance_sma_15m", "distance_sma_30m", "momentum_acceleration", "market_return_15m",
    "market_volatility_15m"]

def netContract : String := "owned-executed-net-return-v1"

def grossContract : String := "owned-executed-paper-gross-return-v1"

def explorationVersion : String := "daily-paper-exploration-walk-forward-v3"

def fiveMinuteVersion : String := "five-minute-price-alpha-v1"

variable {F : Type}

/-- `outcome.available_at is None or outcome.available_at > cutoff`. -/
def Trip.LateAt (trip : Trip) (cutoff : Int) : Prop := ∀ at_ ∈ trip.availableAt, cutoff < at_
deriving Decidable

variable (N : Numerics F) (modelId : ModelArtifact F → String)

/-! ## Predictions and targets -/

/-- A row of features in the order of their names; a `KeyError` where one is missing. -/
def featureRow (features : List (String × F)) : Option (List F) :=
  featureNames.mapM fun name => (features.reverse.find? fun f => decide (f.1 = name)).map (·.2)

/-- mirrors learning_procedure.py:24-36 -/
def predictBps (model : ModelArtifact F) (features : List (List (String × F))) :
    Except ProcedureError (List F) := do
  let rows ← raised (features.mapM featureRow)
  let values ← match model.mode, model.estimator with
    | .collect, _ => .ok (rows.map fun _ => N.zero)
    | .predict, some estimator => raised (N.predict estimator rows)
    | .predict, none =>
      match model.fixtureAuthority.filter (· ≠ ""), model.constantBps with
      | some _, some constant => .ok (rows.map fun _ => constant)
      | _, _ => .error (.value "NONPREDICTIVE_INCUMBENT")
  return values.map N.clip

/-- mirrors learning_procedure.py:39-64 -/
def target (episode : LearningEpisode F) (contract : String) : Except ProcedureError F := do
  let trip := episode.outcome
  let pnl ←
    if contract = netContract then
      match trip.netPnl with
      | some pnl =>
        if trip.status ≠ .complete ∨ trip.entryNotional ≤ 0 then
          .error (.value "UNKNOWN_COSTS_OR_NOTIONAL")
        else .ok pnl
      | none => .error (.value "UNKNOWN_COSTS_OR_NOTIONAL")
    else if contract = grossContract then
      if (trip.status ≠ .complete ∧
          ¬ (trip.status = .costsPending ∧ trip.costReason = "FEE_UNAVAILABLE")) ∨
          trip.entryNotional ≤ 0 ∨ trip.reconciliationId = "" then
        .error (.value "INCOMPLETE_GROSS_TARGET_OR_NOTIONAL")
      else .ok trip.grossPnl
    else .error (.value "UNSUPPORTED_TARGET_CONTRACT")
  let value ← raised (N.returnBps pnl trip.entryNotional)
  refuse (N.finite value = false) "NONFINITE_EXECUTED_RETURN"
  return value

/-- mirrors learning_procedure.py:67-73 -/
def compatibleParent (parent : ModelArtifact F) (contract policyId : String) :
    Except ProcedureError Unit :=
  refuse (parent.mode = .predict ∧
    (parent.targetContract ≠ some contract ∨ parent.policyId ≠ some policyId))
    "INCOMPATIBLE_INCUMBENT"

/-! ## Fitting -/

/-- mirrors learning_procedure.py:89-103 -/
def IncompatibleInput (policy : LearningPolicy) (episode : LearningEpisode F) : Prop :=
  let trip := episode.outcome
  let obs := episode.observation
  trip.policyId ≠ policy.policyId ∨ trip.dataset ≠ policy.dataset ∨
    trip.evidenceLane ≠ policy.evidenceLane ∨ obs.featureVersion ≠ fiveMinuteVersion ∨
    obs.features.map (·.1) ≠ featureNames ∨ obs.recordedAt < obs.availableAt ∨
    obs.availableAt < obs.sourceEnd ∨ obs.sourceEnd ≤ obs.sourceStart ∨
    trip.sourceStart ≠ some obs.sourceStart ∨ trip.sourceEnd = none ∨ trip.availableAt = none ∨
    ∃ at_ ∈ trip.availableAt, ∃ finish ∈ trip.sourceEnd, at_ < finish
deriving Decidable

/-- mirrors learning_procedure.py:76-128 -/
def fitCandidate (outcomes : List (LearningEpisode F)) (parent : ModelArtifact F)
    (policy : LearningPolicy) (runId : String) (sampleWeights : Option (List F)) :
    Except ProcedureError (ModelArtifact F) := do
  refuse (outcomes = []) "EMPTY_TRAINING"
  compatibleParent parent policy.targetContract policy.policyId
  refuse (∃ episode ∈ outcomes, IncompatibleInput policy episode) "INCOMPATIBLE_OR_NONCAUSAL_INPUT"
  let targets ← outcomes.mapM fun e => target N e policy.targetContract
  let estimator ← (N.fit (outcomes.map fun e => e.observation.features.map (·.2)) targets
    sampleWeights).mapError .value
  return {
    mode := .predict
    description :=
      if policy.targetContract = grossContract then "shadow owned before-fee ridge candidate"
      else "shadow owned after-cost ridge candidate"
    featureVersion := fiveMinuteVersion
    estimator := some estimator
    targetContract := some policy.targetContract
    policyId := some policy.policyId
    parentModelId := some (modelId parent)
    inputIds := outcomes.map (·.outcome.id)
    learningReceiptId := runId }

/-- The sessions over by the cutoff. -/
def completedBy (calendar : LearningCalendar) (cutoff : Int) : List Int :=
  (calendar.sessions.filter fun s => decide (s.closeAt ≤ cutoff)).map (·.sessionDate)

/-- Double weight for the last ten completed sessions.
mirrors learning_procedure.py:187-194 -/
def rawWeights (episodes : List (LearningEpisode F)) (calendar : LearningCalendar)
    (cutoff : Int) : Except ProcedureError (List F) := do
  let completed := completedBy calendar cutoff
  refuse (∃ e ∈ episodes, e.session ∉ completed) "FIT_INPUT_OUTSIDE_COMPLETED_CALENDAR"
  let recent := completed.drop (completed.length - 10)
  return episodes.map fun e => if e.session ∈ recent then N.two else N.one

/-- mirrors learning_procedure.py:131-132 -/
def mse (actual values : List F) : Except ProcedureError F := do
  refuse (actual.length ≠ values.length) "zip() argument 2 is of another length than argument 1"
  let squares ← raised ((List.zipWith N.sub actual values).mapM N.square)
  let total ← raised (N.fsum squares)
  raised (N.div total actual.length)

/-! ## The folds -/

/-- What version 3 asks of the validation of a fold.
mirrors learning_procedure.py:219-229 -/
def NoncausalValidation (fold : LearningFold F) (cutoff : Int) : Prop :=
  ∃ e ∈ fold.validation, e.session ≠ fold.session ∨ e.observation.sourceStart < fold.cutoff ∨
    cutoff < e.observation.availableAt ∨ e.outcome.LateAt cutoff ∨ e.outcome.sourceEnd = none ∨
    ∃ finish ∈ e.outcome.sourceEnd, ∃ at_ ∈ e.outcome.availableAt, at_ < finish
deriving Decidable

/-- `min(v.observation.source_start for v in validation)`. -/
def firstStart (validation : List (LearningEpisode F)) : Int :=
  ((validation.map fun v => v.observation.sourceStart).min?).getD 0

/-- A training episode of a later session, not available when the fold opened, or ending within
the embargo before its validation.
mirrors learning_procedure.py:235-245 -/
def NoncausalTraining (fold : LearningFold F) (e : LearningEpisode F) : Prop :=
  fold.session ≤ e.session ∨ e.outcome.LateAt fold.cutoff ∨
    fold.cutoff < e.observation.availableAt ∨ e.outcome.sourceEnd = none ∨
    ∃ finish ∈ e.outcome.sourceEnd, firstStart fold.validation - embargo < finish
deriving Decidable

/-- mirrors learning_procedure.py:230-246 -/
def NoncausalFold (fold : LearningFold F) : Prop :=
  fold.training = [] ∨ fold.validation = [] ∨ fold.training.length < minTraining ∨
    ((fold.training.map (·.session)).dedup).length < minTrainingSessions ∨
    ∃ e ∈ fold.training, NoncausalTraining fold e
deriving Decidable

/-- mirrors learning_procedure.py:264-273 -/
def DimensionMismatch (fold : LearningFold F) (actual historical : List F) : Prop :=
  ¬ (actual.length = historical.length ∧ historical.length = fold.historicalModelIds.length ∧
    fold.historicalModelIds.length = fold.historicalAvailableAt.length ∧
    fold.historicalAvailableAt.length = fold.historicalReceiptIds.length ∧
    fold.historicalReceiptIds.length = fold.historicalAcknowledgementIds.length ∧
    fold.historicalAcknowledgementIds.length =
      fold.historicalAcknowledgementAvailableAt.length)
deriving Decidable

/-- The scores of a fitted fold, beside the models that were live and a constant.
mirrors learning_procedure.py:251-288 -/
def scoreFold (fold : LearningFold F) (policy : LearningPolicy) (artifact : ModelArtifact F) :
    Except ProcedureError (SessionMetrics F × List Int) := do
  let actual ← fold.validation.mapM fun e => target N e policy.targetContract
  let values ← predictBps N artifact (fold.validation.map fun e => e.observation.features)
  let estimator ← raised artifact.estimator
  let constant := List.replicate actual.length (N.clip estimator.intercept)
  fold.historicalModels.forM fun m =>
    compatibleParent m policy.targetContract policy.policyId
  let historical ← (fold.historicalModels.zip fold.validation).mapM fun (m, e) => do
    let predicted ← predictBps N m [e.observation.features]
    raised predicted.head?
  refuse (fold.historicalModels.length ≠ fold.validation.length)
    "zip() argument 2 is of another length than argument 1"
  refuse (fold.historicalModels.map modelId ≠ fold.historicalModelIds)
    "HISTORICAL_MODEL_ID_MISMATCH"
  refuse (DimensionMismatch fold actual historical) "HISTORICAL_COMPARATOR_DIMENSION_MISMATCH"
  let candidateMse ← mse N actual values
  let incumbentMse ← mse N actual historical
  let constantMse ← mse N actual constant
  refuse (∃ e ∈ fold.validation, e.outcome.availableAt = none) "UNKNOWN_SCORING_AVAILABILITY"
  let scores : SessionMetrics F := {
    session := fold.session
    outcomeIds := fold.validation.map (·.outcome.id)
    actualBps := actual, candidateBps := values
    incumbentBps := historical, constantBps := constant
    candidateMse, incumbentMse, constantMse }
  return (scores, fold.validation.filterMap (·.outcome.availableAt))

/-- One fold: its checks, its fit and its scores.
mirrors learning_procedure.py:218-308 -/
def runFold [DecidableEq F] (parent : ModelArtifact F) (policy : LearningPolicy)
    (calendar : LearningCalendar) (cutoff : Int) (runId : String) (fold : LearningFold F) :
    Except ProcedureError (FoldResult F) := do
  refuse (policy.procedureVersion = some explorationVersion ∧ NoncausalValidation fold cutoff)
    "NONCAUSAL_VALIDATION_FOLD"
  refuse (NoncausalFold fold) "NONCAUSAL_OR_INSUFFICIENT_FOLD"
  let weights ← rawWeights N fold.training calendar fold.cutoff
  let artifact ← fitCandidate N modelId fold.training parent policy runId (some weights)
  let (scores, scoring) ← scoreFold N modelId fold policy artifact
  return {
    session := fold.session
    cutoff := fold.cutoff
    trainingIds := artifact.inputIds
    validationIds := scores.outcomeIds
    scoringAvailableAt := scoring
    rawWeights := weights
    artifact
    historicalModelIds := fold.historicalModelIds
    historicalAvailableAt := fold.historicalAvailableAt
    historicalReceiptIds := fold.historicalReceiptIds
    historicalAcknowledgementIds := fold.historicalAcknowledgementIds
    historicalAcknowledgementAvailableAt := fold.historicalAcknowledgementAvailableAt
    scores }

/-! ## The procedure -/

/-- `max(..)`, of a list that is not empty. -/
def worst (values : List F) : Except ProcedureError F :=
  match values with
  | [] => .error (.value "max() iterable argument is empty")
  | v :: rest => .ok (rest.foldl N.max v)

/-- mirrors learning_procedure.py:310-318 -/
def metricsOf (folds : List (FoldResult F)) : Except ProcedureError (Metrics F) := do
  let scores := folds.map (·.scores)
  let actual := scores.flatMap (·.actualBps)
  let candidateMse ← mse N actual (scores.flatMap (·.candidateBps))
  let incumbentMse ← mse N actual (scores.flatMap (·.incumbentBps))
  let constantMse ← mse N actual (scores.flatMap (·.constantBps))
  let candidateWorstSessionMse ← worst N (scores.map (·.candidateMse))
  let incumbentWorstSessionMse ← worst N (scores.map (·.incumbentMse))
  let constantWorstSessionMse ← worst N (scores.map (·.constantMse))
  return {
    candidateMse, candidateWorstSessionMse, constantMse, constantWorstSessionMse
    incumbentMse, incumbentWorstSessionMse }

/-- mirrors learning_procedure.py:177-184 -/
def passesValidation (m : Metrics F) : Bool :=
  N.lt m.candidateMse (N.min m.incumbentMse m.constantMse) &&
    !N.lt (N.reduced m.incumbentMse) m.candidateMse &&
    !N.lt (N.reduced m.constantMse) m.candidateMse &&
    !N.lt (N.min m.incumbentWorstSessionMse m.constantWorstSessionMse) m.candidateWorstSessionMse

/-- mirrors learning_procedure.py:197-332 -/
def runProcedure [DecidableEq F] (folds : List (LearningFold F))
    (final : List (LearningEpisode F)) (parent : ModelArtifact F) (policy : LearningPolicy)
    (calendar : LearningCalendar) (cutoff : Int) (runId : String) :
    Except ProcedureError (ProcedureResult F) := do
  refuse (folds.length ≠ 5 ∨
    folds.map (·.session) ≠ ((folds.map (·.session)).dedup).insertionSort (· ≤ ·))
    "FIVE_CHRONOLOGICAL_FOLDS_REQUIRED"
  refuse (∃ e ∈ final, e.outcome.LateAt cutoff) "FINAL_INPUT_UNAVAILABLE_AT_CUTOFF"
  let results ← folds.mapM (runFold N modelId parent policy calendar cutoff runId)
  let metrics ← metricsOf N results
  let passed := passesValidation N metrics
  let finalWeights ← if passed then rawWeights N final calendar cutoff else .ok []
  let candidate ←
    if passed then
      (fitCandidate N modelId final parent policy runId (some finalWeights)).map some
    else .ok none
  return {
    candidate, folds := results, metrics, sessionMetrics := results.map (·.scores)
    gatesPassed := passed, finalRawWeights := finalWeights }

end Quantbot.L4.Procedure
