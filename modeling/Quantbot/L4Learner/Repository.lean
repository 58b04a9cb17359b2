import Quantbot.Core.Reads
import Quantbot.L4Learner.Records

/-!
# The learner's repository

`learner/repository.py`: immutable storage of datasets, models, predictions, outcomes and
evaluations, each as a canonical document beside the fields promoted from it. A `Session` is one
database session with one `LearnerRepository`: the tables, the documents it has read, the models
it has checked against their datasets, and the predictions this session inserted.

What is not text of the repository is `Evidence`: float arithmetic, estimators and metrics,
content hashes, and the documents' JSON (`Codec`: a valid record reads back as itself).
An instant's column is the instant. The foreign keys hold of every insert, since each save loads
what its row refers to.
-/
namespace Quantbot.L4.Learner

open Core L1 L3.Registry
open L4.Intraday (minute FittedEstimator)
open Txn (require raising zoom mapError)

inductive LedgerError
  | validation
  | notFound (text : String)
  | conflict (text : String)
  | integrity (text : String)
  | value (text : String)
  | runtime (text : String)
deriving DecidableEq, Repr

def ensure (c : Prop) [Decidable c] (e : LedgerError) : Except LedgerError PUnit :=
  if c then .ok ⟨⟩ else .error e

@[simp] theorem ensure_ok {c : Prop} [Decidable c] {e : LedgerError} {u : PUnit} :
    ensure c e = .ok u ↔ c := by
  unfold ensure; split <;> simp_all

/-- A computation of floats or of an estimator. -/
def computed {α : Type} (text : String) : Option α → Except LedgerError α
  | some a => .ok a
  | none => .error (.value text)

/-! ## Documents -/

/-- `_document_json` and `model_validate_json` of one type of record. -/
structure Codec {R : Type} (Valid : R → Prop) (D : Type) where
  print : R → D
  parse : D → Option R
  parse_print : ∀ r, Valid r → parse (print r) = some r

/-- How one kind of record is kept. `payload r row` is the row of a record; what only the store
knows of a row stays as it is in `row`. -/
structure Kind (R Row D H : Type) where
  name : String
  key : Row → String
  documentHash : Row → H
  documentJson : Row → D
  payload : R → Row → Row
  print : R → D
  parse : D → Option R
  hash : D → H

variable {R Row D H : Type}

/-- A document that was read, with what reading it established. -/
structure Entry (k : Kind R Row D H) where
  raw : D
  record : R
  read : k.parse raw = some record
  canonical : k.print record = raw

abbrev Cache (k : Kind R Row D H) := String → Option (Entry k)

section Documents
variable [DecidableEq Row] [DecidableEq D] [DecidableEq H] (k : Kind R Row D H)

def Kind.stored (identity text : String) : LedgerError :=
  .conflict ("stored " ++ k.name ++ " " ++ identity ++ text)

/-- The checks of a record that was parsed. -/
def keepParsed (row : Row) (identity : String) (record : R)
    (h : k.parse (k.documentJson row) = some record) : Txn (Cache k) LedgerError R :=
  if hc : k.print record = k.documentJson row then
    if row = k.payload record row then do
      modify fun c => Function.update c identity (some ⟨_, record, h, hc⟩)
      return record
    else throw (k.stored identity " promoted fields do not match its document")
  else throw (k.stored identity " document is not canonical")

/-- The checks of a document that is not cached. -/
def parseDocument (row : Row) (identity : String) : Txn (Cache k) LedgerError R :=
  match h : k.parse (k.documentJson row) with
  | none => throw (k.stored identity " document does not satisfy its typed contract")
  | some record => keepParsed k row identity record h

/-- The cached record, while its row matches. -/
def cachedOr (row : Row) (identity : String) : Option (Entry k) → Txn (Cache k) LedgerError R
  | some entry =>
    if entry.raw = k.documentJson row then do
      require (row = k.payload entry.record row)
        (k.stored identity " promoted fields do not match its document")
      return entry.record
    else parseDocument k row identity
  | none => parseDocument k row identity

/-- `_load_document`.
mirrors repository.py:87-123 -/
def loadDocument (row : Row) (identity : String) : Txn (Cache k) LedgerError R := do
  require (k.documentHash row = k.hash (k.documentJson row))
    (k.stored identity " document hash does not match")
  let cache ← get
  cachedOr k row identity (cache identity)

/-- `INSERT`, under the two unique columns. -/
def insertRow (row : Row) : Txn (Table Row k.key) LedgerError PUnit := do
  let table ← get
  require (table.get? (k.key row) = none ∧
      ∀ r ∈ table.rows, k.documentHash r ≠ k.documentHash row)
    (.integrity "UNIQUE constraint failed")
  modify fun table => table.insert row

def saveAgainst (row : Row) : Option Row → Txn (Table Row k.key) LedgerError Bool
  | none => do
    insertRow k row
    return true
  | some stored =>
    if stored = row then return false
    else throw (.conflict (k.name ++ " " ++ k.key row ++ " conflicts with stored data"))

/-- `_save_immutable`.
mirrors repository.py:64-85 -/
def saveImmutable (row : Row) : Txn (Table Row k.key) LedgerError Bool := do
  let table ← get
  saveAgainst k row (table.get? (k.key row))

end Documents

/-! ## The tables -/

structure DatasetRow (D H : Type) where
  datasetId : String
  documentHash : H
  documentJson : D
deriving DecidableEq

structure ModelRow (D H : Type) where
  modelId : String
  datasetId : String
  family : String
  createdAt : Int
  artifactHash : String
  documentHash : H
  documentJson : D
deriving DecidableEq

structure PredictionRow (D H : Type) where
  predictionId : String
  modelId : String
  evaluationClass : EvaluationClass
  createdAt : Int
  recordedAt : Int
  cohortId : String
  documentHash : H
  documentJson : D
deriving DecidableEq

structure OutcomeRow (D H : Type) where
  predictionId : String
  resolvedAt : Int
  sourceHash : String
  documentHash : H
  documentJson : D
deriving DecidableEq

structure EvaluationRow (D H : Type) where
  evaluationId : String
  modelId : String
  evaluationClass : EvaluationClass
  createdAt : Int
  documentHash : H
  documentJson : D
deriving DecidableEq

/-- mirrors metrics.py:44-54 -/
structure ScoredRow (F : Type) where
  predictionId : String
  cohortId : String
  symbol : String
  asOf : Int
  targetAt : Int
  score : F
  rawReturn : F
  benchmarkReturn : F
  excessReturn : F
deriving DecidableEq

/-- What a text is to `json.loads` and `canonical_result_json`. -/
inductive MetricsText | invalid | other | canonicalObject
deriving DecidableEq, Repr

/-- A record as the validators leave it. -/
def Standing {F : Type} (fl : Arithmetic F) (artifactId : FittedEstimator F → String) :
    (Dataset F → Prop) × (ModelVersion F → Prop) × (Prediction F → Prop) :=
  (fun d => d.normalized = d ∧ d.Checks fl,
    fun m => m.normalized = m ∧ m.Checks fl artifactId,
    fun p => p.normalized = p ∧ p.Checks fl)

/-- The functions the repository is over. -/
structure Evidence (F D H : Type) where
  fl : Arithmetic F
  fit : List (List F) → List F → List String → String → F → Int → Option (FittedEstimator F)
  predict : FittedEstimator F → List (List F) → Option (List F)
  /-- `evaluate_predictions` with the class beside it, as canonical JSON. -/
  metrics : List (ScoredRow F) → ℕ → EvaluationClass → Option String
  metricsText : String → MetricsText
  rowId : LabelRow F → String
  datasetId : Dataset F → String
  artifactId : FittedEstimator F → String
  hash : D → H
  datasets : Codec (Standing fl artifactId).1 D
  models : Codec (Standing fl artifactId).2.1 D
  predictions : Codec (Standing fl artifactId).2.2 D
  outcomes : Codec (Outcome.Checks fl) D
  evaluations : Codec Evaluation.Checks D

variable {F : Type} (env : Evidence F D H)

namespace Evidence

/-- mirrors repository.py:131-138 -/
def datasetPayload (d : Dataset F) : DatasetRow D H :=
  { datasetId := env.datasetId d
    documentHash := env.hash (env.datasets.print d)
    documentJson := env.datasets.print d }

/-- mirrors repository.py:173-184 -/
def modelPayload (m : ModelVersion F) : ModelRow D H :=
  { modelId := m.modelId
    datasetId := m.datasetId
    family := m.family
    createdAt := m.createdAt
    artifactHash := m.artifactHash
    documentHash := env.hash (env.models.print m)
    documentJson := env.models.print m }

/-- mirrors repository.py:324-340 -/
def predictionPayload (p : Prediction F) (recordedAt : Int) : PredictionRow D H :=
  { predictionId := p.predictionId
    modelId := p.modelId
    evaluationClass := p.evaluationClass
    createdAt := p.createdAt
    recordedAt := recordedAt
    cohortId := p.cohortId
    documentHash := env.hash (env.predictions.print p)
    documentJson := env.predictions.print p }

/-- mirrors repository.py:474-483 -/
def outcomePayload (o : Outcome F) : OutcomeRow D H :=
  { predictionId := o.predictionId
    resolvedAt := o.resolvedAt
    sourceHash := o.sourceHash
    documentHash := env.hash (env.outcomes.print o)
    documentJson := env.outcomes.print o }

/-- mirrors repository.py:551-561 -/
def evaluationPayload (e : Evaluation) : EvaluationRow D H :=
  { evaluationId := e.evaluationId
    modelId := e.modelId
    evaluationClass := e.evaluationClass
    createdAt := e.createdAt
    documentHash := env.hash (env.evaluations.print e)
    documentJson := env.evaluations.print e }

def datasetKind : Kind (Dataset F) (DatasetRow D H) D H :=
  { name := "learner dataset"
    key := (·.datasetId)
    documentHash := (·.documentHash)
    documentJson := (·.documentJson)
    payload := fun d _ => env.datasetPayload d
    print := env.datasets.print
    parse := env.datasets.parse
    hash := env.hash }

def modelKind : Kind (ModelVersion F) (ModelRow D H) D H :=
  { name := "learner model"
    key := (·.modelId)
    documentHash := (·.documentHash)
    documentJson := (·.documentJson)
    payload := fun m _ => env.modelPayload m
    print := env.models.print
    parse := env.models.parse
    hash := env.hash }

def predictionKind : Kind (Prediction F) (PredictionRow D H) D H :=
  { name := "learner prediction"
    key := (·.predictionId)
    documentHash := (·.documentHash)
    documentJson := (·.documentJson)
    payload := fun p row => env.predictionPayload p row.recordedAt
    print := env.predictions.print
    parse := env.predictions.parse
    hash := env.hash }

def outcomeKind : Kind (Outcome F) (OutcomeRow D H) D H :=
  { name := "learner outcome"
    key := (·.predictionId)
    documentHash := (·.documentHash)
    documentJson := (·.documentJson)
    payload := fun o _ => env.outcomePayload o
    print := env.outcomes.print
    parse := env.outcomes.parse
    hash := env.hash }

def evaluationKind : Kind Evaluation (EvaluationRow D H) D H :=
  { name := "learner evaluation"
    key := (·.evaluationId)
    documentHash := (·.documentHash)
    documentJson := (·.documentJson)
    payload := fun e _ => env.evaluationPayload e
    print := env.evaluations.print
    parse := env.evaluations.parse
    hash := env.hash }

end Evidence

structure Ledger (D H : Type) where
  datasets : Table (DatasetRow D H) (·.datasetId) := .empty
  models : Table (ModelRow D H) (·.modelId) := .empty
  predictions : Table (PredictionRow D H) (·.predictionId) := .empty
  outcomes : Table (OutcomeRow D H) (·.predictionId) := .empty
  evaluations : Table (EvaluationRow D H) (·.evaluationId) := .empty

structure Session where
  ledger : Ledger D H := {}
  datasetCache : Cache env.datasetKind := fun _ => none
  modelCache : Cache env.modelKind := fun _ => none
  predictionCache : Cache env.predictionKind := fun _ => none
  outcomeCache : Cache env.outcomeKind := fun _ => none
  evaluationCache : Cache env.evaluationKind := fun _ => none
  modelDatasetChecks : List (D × D) := []
  /-- `session.info["learner_pending_prediction_ids"]`. -/
  pending : List String := []

abbrev Repo (α : Type) := Txn (Session env) LedgerError α

variable [DecidableEq D] [DecidableEq H]

/-! ## Datasets -/

/-- `Dataset.model_validate`. -/
def validateDataset (d : Dataset F) : Except LedgerError (Dataset F) :=
  if d.normalized.Checks env.fl then .ok d.normalized else .error .validation

/-- mirrors repository.py:140-151 -/
def saveDataset (d : Dataset F) : Repo env Bool := do
  let validated ← raising (validateDataset env d)
  zoom (·.ledger.datasets) (fun s t => { s with ledger := { s.ledger with datasets := t } }) id
    (saveImmutable env.datasetKind (env.datasetPayload validated))

/-- A row, or `RecordNotFoundError`. -/
def found {Row : Type} (text : String) (row : Option Row) : Except LedgerError Row :=
  match row with
  | some row => .ok row
  | none => .error (.notFound text)

/-- mirrors repository.py:153-171 -/
def getDataset (datasetId : String) : Repo env (Dataset F) := do
  let s ← get
  let row ← raising (found ("learner dataset not found: " ++ datasetId)
    (s.ledger.datasets.get? datasetId))
  zoom (·.datasetCache) (fun s c => { s with datasetCache := c }) id
    (loadDocument env.datasetKind row datasetId)

/-! ## Models -/

def rowsOf (d : Dataset F) (role : DataRole) : List (LabelRow F) :=
  d.rows.filter fun r => r.role = role

/-- The fit of a model, computed again. -/
def requireFit (m : ModelVersion F) (d : Dataset F) : Except LedgerError PUnit := do
  let training := rowsOf d .discovery
  let validation := rowsOf d .validation
  let expected ← computed "fit" (env.fit (training.map fun r => r.features.values)
    (training.map fun r => r.excessReturn) d.featureNames m.family m.artifact.alpha m.artifact.seed)
  ensure (sameArtifact env.fl m.artifact expected = true)
    (.conflict "model artifact differs from the recomputed training fit")
  let scores ← computed "predict" (env.predict expected (validation.map fun r => r.features.values))
  ensure (scores.length = validation.length) (.value "zip() arguments have different lengths")
  let mse ← computed "mean" (env.fl.mse (scores.zip (validation.map fun r => r.excessReturn)))
  ensure (env.fl.same m.validationMse mse = true)
    (.conflict "model validation MSE differs from stored validation rows")

/-- mirrors repository.py:186-250 -/
def requireModelMatchesDataset (m : ModelVersion F) (d : Dataset F) (verifyFit : Bool) :
    Except LedgerError PUnit := do
  let training := rowsOf d .discovery
  let validation := rowsOf d .validation
  ensure (m.trainingObservationIds = training.map env.rowId)
    (.conflict "model training observations do not match its stored dataset")
  ensure (m.validationObservationIds = validation.map env.rowId)
    (.conflict "model validation observations do not match its stored dataset")
  ensure (m.artifact.featureNames = d.featureNames)
    (.conflict "model artifact dimensions do not match its stored dataset")
  ensure (training ≠ [] ∧ validation ≠ [])
    (.conflict "model dataset must contain training and validation rows")
  ensure (some m.trainingStart = (training.map fun r => r.features.asOf).min? ∧
      some m.trainingEnd = (training.map fun r => r.features.targetAt).max? ∧
      some m.validationStart = (validation.map fun r => r.features.asOf).min? ∧
      some m.validationEnd = (validation.map fun r => r.features.targetAt).max?)
    (.conflict "model time bounds do not match its stored dataset")
  ensure (∀ r ∈ d.rows, r.features.featureSet = m.featureSet ∧ r.features.horizon = m.horizon)
    (.conflict "model feature contract does not match its stored dataset")
  if verifyFit then requireFit env m d else .ok ⟨⟩

/-- `_cached_document` of a model. -/
def cachedModel (modelId : String) : Repo env D := do
  let s ← get
  match s.modelCache modelId with
  | some entry => pure entry.raw
  | none => throw (.runtime ("learner model " ++ modelId ++
      " was not loaded before dependency validation"))

/-- `_cached_document` of a dataset. -/
def cachedDataset (datasetId : String) : Repo env D := do
  let s ← get
  match s.datasetCache datasetId with
  | some entry => pure entry.raw
  | none => throw (.runtime ("learner dataset " ++ datasetId ++
      " was not loaded before dependency validation"))

/-- The check of a model against its dataset, once for the two documents. -/
def checkDependency (m : ModelVersion F) (d : Dataset F) (key : D × D) : Repo env PUnit := do
  let s ← get
  if key ∈ s.modelDatasetChecks then pure ⟨⟩
  else do
    raising (requireModelMatchesDataset env m d false)
    modify fun s => { s with modelDatasetChecks := key :: s.modelDatasetChecks }

/-- mirrors repository.py:284-313 -/
def getModel (modelId : String) : Repo env (ModelVersion F) := do
  let s ← get
  let row ← raising (found ("learner model not found: " ++ modelId) (s.ledger.models.get? modelId))
  let model ← zoom (·.modelCache) (fun s c => { s with modelCache := c }) id
    (loadDocument env.modelKind row modelId)
  let dataset ← getDataset env model.datasetId
  let modelDocument ← cachedModel env modelId
  let datasetDocument ← cachedDataset env model.datasetId
  checkDependency env model dataset (modelDocument, datasetDocument)
  return model

/-- `ModelVersion.model_validate`. -/
def validateModel (m : ModelVersion F) : Except LedgerError (ModelVersion F) :=
  if m.normalized.Checks env.fl env.artifactId then .ok m.normalized else .error .validation

def parentMissing (parentId : String) : LedgerError → LedgerError
  | .notFound _ => .notFound ("learner parent model not found: " ++ parentId)
  | e => e

/-- The parent of a successor: the version before it, over the same source. -/
def requireParent (m : ModelVersion F) (d : Dataset F) : Option String → Repo env PUnit
  | none => pure ⟨⟩
  | some parentId => do
    let parent ← mapError (parentMissing parentId) (getModel env parentId)
    raising (ensure (m.version = parent.version + 1)
      (.conflict "successor model version does not immediately follow parent"))
    let parentDataset ← getDataset env parent.datasetId
    raising (ensure (parentDataset.sourceId = d.sourceId ∧ parentDataset.universeId = d.universeId)
      (.conflict "successor model lineage changed source or universe"))

/-- mirrors repository.py:252-282 -/
def saveModel (m : ModelVersion F) : Repo env Bool := do
  let validated ← raising (validateModel env m)
  let dataset ← getDataset env validated.datasetId
  raising (requireModelMatchesDataset env validated dataset true)
  requireParent env validated dataset validated.parentModelId
  zoom (·.ledger.models) (fun s t => { s with ledger := { s.ledger with models := t } }) id
    (saveImmutable env.modelKind (env.modelPayload validated))

/-! ## Predictions -/

def EvaluationClass.prospective (c : EvaluationClass) : Bool := c ≠ .historicalReplay

/-- mirrors repository.py:342-383 -/
def requirePredictionMatchesModel (p : Prediction F) (m : ModelVersion F) (d : Dataset F)
    (recordedAt : Int) : Except LedgerError PUnit := do
  ensure (m.trainingEnd < p.features.asOf)
    (.conflict "prediction features do not follow the model training window")
  ensure (p.features.featureSet = m.featureSet ∧ p.features.horizon = m.horizon)
    (.conflict "prediction feature contract does not match its model")
  ensure (p.features.sourceId = d.sourceId ∧ p.features.universeId = d.universeId ∧
      p.features.symbol ∈ d.symbols)
    (.conflict "prediction lineage does not match its model dataset")
  let scores ← computed "predict" (env.predict m.artifact [p.features.values])
  let expected ← computed "index" scores.head?
  ensure (env.fl.same p.score expected = true)
    (.conflict "prediction score does not match its stored model artifact")
  ensure (¬ (p.evaluationClass = .shadow ∧ d.sourceEvidence = "LOCAL_DECLARED"))
    (.conflict "SHADOW evidence requires a trusted source producer")
  ensure (p.evaluationClass.prospective = true → m.createdAt ≤ recordedAt)
    (.conflict "prospective prediction was recorded before its model")
  ensure (p.evaluationClass.prospective = true → recordedAt ≤ p.features.asOf + 5 * minute)
    (.conflict "prospective prediction missed its five-minute deadline")
  ensure (p.evaluationClass.prospective = true → recordedAt < p.features.targetAt)
    (.conflict "prospective prediction target is already knowable")

/-- `Prediction.model_validate`. -/
def validatePrediction (p : Prediction F) : Except LedgerError (Prediction F) :=
  if p.normalized.Checks env.fl then .ok p.normalized else .error .validation

/-- A first save is recorded at `now`; a repeat is checked at the time already recorded. -/
def storePrediction (p : Prediction F) (m : ModelVersion F) (d : Dataset F) (now : Int) :
    Option (PredictionRow D H) → Repo env Bool
  | some existing => do
    raising (requirePredictionMatchesModel env p m d existing.recordedAt)
    if existing = env.predictionPayload p existing.recordedAt then return false
    else throw (.conflict ("learner prediction " ++ p.predictionId ++
      " conflicts with stored data"))
  | none => do
    raising (requirePredictionMatchesModel env p m d now)
    zoom (·.ledger.predictions)
      (fun s t => { s with ledger := { s.ledger with predictions := t } }) id
      (insertRow env.predictionKind (env.predictionPayload p now))
    modify fun s => { s with pending := p.predictionId :: s.pending }
    return true

/-- mirrors repository.py:385-424 -/
def savePrediction (p : Prediction F) (now : Int) : Repo env Bool := do
  let validated ← raising (validatePrediction env p)
  let model ← getModel env validated.modelId
  let dataset ← getDataset env model.datasetId
  let s ← get
  storePrediction env validated model dataset now (s.ledger.predictions.get? validated.predictionId)

/-- mirrors repository.py:426-460 -/
def getPrediction (predictionId : String) : Repo env (Prediction F) := do
  let s ← get
  let row ← raising (found ("learner prediction not found: " ++ predictionId)
    (s.ledger.predictions.get? predictionId))
  let prediction ← zoom (·.predictionCache) (fun s c => { s with predictionCache := c }) id
    (loadDocument env.predictionKind row predictionId)
  let model ← getModel env prediction.modelId
  let dataset ← getDataset env model.datasetId
  raising (requirePredictionMatchesModel env prediction model dataset row.recordedAt)
  return prediction

/-- By `recorded_at`, then by id. -/
def predictionIdsOf (l : Ledger D H) (modelId : Option String) : List String :=
  let rows := l.predictions.rows.filter fun r => modelId = none ∨ modelId = some r.modelId
  (rows.insertionSort fun a b => textRank a.recordedAt < textRank b.recordedAt ∨
    a.recordedAt = b.recordedAt ∧ a.predictionId ≤ b.predictionId).map (·.predictionId)

/-- mirrors repository.py:462-472 -/
def listPredictions (modelId : Option String) : Repo env (List (Prediction F)) := do
  let s ← get
  (predictionIdsOf s.ledger modelId).mapM (getPrediction env)

/-! ## Outcomes -/

/-- mirrors repository.py:485-501 -/
def requireOutcomeMatchesPrediction (o : Outcome F) (p : Prediction F) :
    Except LedgerError PUnit := do
  ensure (p.features.targetAt ≤ o.availableAt)
    (.conflict "outcome source was not available at its target")
  ensure (p.createdAt ≤ o.resolvedAt) (.conflict "outcome resolution predates its prediction")
  let one := env.fl.ofDecimal 1
  let ratio ← computed "division" (env.fl.div o.targetClose p.features.baseClose)
  let rawReturn := env.fl.sub ratio one
  let marketRatio ← computed "division" (env.fl.div o.benchmarkClose p.features.benchmarkClose)
  let benchmarkReturn := env.fl.sub marketRatio one
  let excessReturn := env.fl.sub rawReturn benchmarkReturn
  ensure (env.fl.same o.rawReturn rawReturn = true ∧
      env.fl.same o.benchmarkReturn benchmarkReturn = true ∧
      env.fl.same o.excessReturn excessReturn = true ∧
      env.fl.same o.error (env.fl.sub excessReturn p.score) = true)
    (.conflict "outcome derived returns do not match its frozen prediction")

/-- `Outcome.model_validate`. -/
def validateOutcome (o : Outcome F) : Except LedgerError (Outcome F) :=
  if o.Checks env.fl then .ok o else .error .validation

/-- mirrors repository.py:503-524 -/
def saveOutcome (o : Outcome F) (now : Int) : Repo env Bool := do
  let validated ← raising (validateOutcome env o)
  let s ← get
  require (validated.predictionId ∉ s.pending)
    (.conflict "outcome requires a prediction committed by a prior durable transaction")
  require (validated.availableAt ≤ now ∧ validated.resolvedAt ≤ now)
    (.conflict "outcome source or resolution time is still in the future")
  let prediction ← getPrediction env validated.predictionId
  raising (requireOutcomeMatchesPrediction env validated prediction)
  zoom (·.ledger.outcomes) (fun s t => { s with ledger := { s.ledger with outcomes := t } }) id
    (saveImmutable env.outcomeKind (env.outcomePayload validated))

/-- The outcome of a row. -/
def loadOutcome (predictionId : String) : Option (OutcomeRow D H) → Repo env (Option (Outcome F))
  | none => return none
  | some row => do
    let outcome ← zoom (·.outcomeCache) (fun s c => { s with outcomeCache := c }) id
      (loadDocument env.outcomeKind row predictionId)
    let prediction ← getPrediction env outcome.predictionId
    raising (requireOutcomeMatchesPrediction env outcome prediction)
    return some outcome

/-- mirrors repository.py:526-549 -/
def getOutcome (predictionId : String) : Repo env (Option (Outcome F)) := do
  let s ← get
  loadOutcome env predictionId (s.ledger.outcomes.get? predictionId)

/-! ## Evaluations -/

/-- The predictions of an evaluation are of its model and of its class. -/
def requireMembers (e : Evaluation) : List (Prediction F) → Except LedgerError PUnit
  | [] => .ok ⟨⟩
  | p :: rest => do
    ensure (p.modelId = e.modelId) (.conflict "evaluation prediction belongs to a different model")
    ensure (p.evaluationClass = e.evaluationClass)
      (.conflict "evaluation prediction has a different evidence class")
    requireMembers e rest

/-- The stored predictions of its model and class are the expected ones. -/
def requireCohort (e : Evaluation) (stored : List (Prediction F)) : Except LedgerError PUnit :=
  let ids := (stored.filter fun p => p.evaluationClass = e.evaluationClass).map (·.predictionId)
  ensure (e.expectedPredictionIds ⊆ ids ∧ ids ⊆ e.expectedPredictionIds)
    (.conflict "evaluation expected predictions do not match the stored evidence cohort")

def cohortOf (e : Evaluation) (complete : Bool) : Repo env PUnit :=
  if complete then do
    let stored ← listPredictions env (some e.modelId)
    raising (requireCohort e stored)
  else pure ⟨⟩

/-- The scored row of a prediction and its outcome. -/
def scoredOf (e : Evaluation) (expected : List (Prediction F)) (predictionId : String)
    (outcome : Option (Outcome F)) : Except LedgerError (ScoredRow F) := do
  let p ← computed "key" (expected.find? fun p => p.predictionId = predictionId)
  match outcome with
  | none => .error (.conflict "evaluation prediction has no resolved outcome")
  | some o =>
    ensure (o.resolvedAt ≤ e.createdAt)
      (.conflict "evaluation predates one of its resolved outcomes")
    pure
      { predictionId := p.predictionId
        cohortId := p.cohortId
        symbol := p.features.symbol
        asOf := p.features.asOf
        targetAt := p.features.targetAt
        score := p.score
        rawReturn := o.rawReturn
        benchmarkReturn := o.benchmarkReturn
        excessReturn := o.excessReturn }

def requireMetrics (e : Evaluation) (expected : List (Prediction F)) (scored : List (ScoredRow F)) :
    Except LedgerError PUnit :=
  match env.metrics scored expected.length e.evaluationClass with
  | none => .error (.conflict "evaluation inputs cannot produce valid metrics")
  | some json => ensure (e.metricsJson = json)
      (.conflict "evaluation metrics do not match its stored predictions and outcomes")

/-- mirrors repository.py:563-633 -/
def requireEvaluationInputs (e : Evaluation) (complete : Bool) : Repo env PUnit := do
  let _ ← getModel env e.modelId
  raising (ensure (env.metricsText e.metricsJson ≠ .invalid)
    (.conflict "evaluation metrics_json is not valid JSON"))
  raising (ensure (env.metricsText e.metricsJson = .canonicalObject)
    (.conflict "evaluation metrics_json must be a canonical JSON object"))
  let expected ← e.expectedPredictionIds.mapM (getPrediction env)
  raising (requireMembers e expected)
  cohortOf env e complete
  let scored ← e.predictionIds.mapM fun id => do
    let outcome ← getOutcome env id
    raising (scoredOf e expected id outcome)
  raising (requireMetrics env e expected scored)

/-- `Evaluation.model_validate`. -/
def validateEvaluation (e : Evaluation) : Except LedgerError Evaluation :=
  if e.Checks then .ok e else .error .validation

/-- mirrors repository.py:635-647 -/
def saveEvaluation (e : Evaluation) : Repo env Bool := do
  let validated ← raising (validateEvaluation e)
  requireEvaluationInputs env validated true
  zoom (·.ledger.evaluations)
    (fun s t => { s with ledger := { s.ledger with evaluations := t } }) id
    (saveImmutable env.evaluationKind (env.evaluationPayload validated))

/-- mirrors repository.py:649-671 -/
def getEvaluation (evaluationId : String) : Repo env Evaluation := do
  let s ← get
  let row ← raising (found ("learner evaluation not found: " ++ evaluationId)
    (s.ledger.evaluations.get? evaluationId))
  let evaluation ← zoom (·.evaluationCache) (fun s c => { s with evaluationCache := c }) id
    (loadDocument env.evaluationKind row evaluationId)
  requireEvaluationInputs env evaluation false
  return evaluation

end Quantbot.L4.Learner
