import Quantbot.Core.Decimal
import Quantbot.Core.Table
import Quantbot.L1Domain.Models
import Quantbot.L3Strategy.Sessions

/-!
# The intraday learner

`learner/intraday.py`: features of a cohort from minute bars, labels thirty minutes on, one
fit behind a chronological boundary and the predictions of a fitted model. A bar is stamped with
the start of its minute. Instants are microseconds since the epoch.

The arithmetic of floats (`Floats`) and the estimators of `learner/estimators.py`
(`Estimators`) are any functions: what is used of them is that they are functions.
-/
namespace Quantbot.L4.Intraday

open Core L1 L3.Strategy

def minute : Int := 60000000

/-- `HORIZON`. -/
def horizon : Int := 30 * minute

inductive IntradayError
  | value (text : String)
  | validation (text : String)
  | arithmetic
  | index
deriving DecidableEq, Repr

def ensure (c : Prop) [Decidable c] (e : IntradayError) : Except IntradayError PUnit :=
  if c then .ok ⟨⟩ else .error e

@[simp] theorem ensure_ok {c : Prop} [Decidable c] {e : IntradayError} {u : PUnit} :
    ensure c e = .ok u ↔ c := by
  unfold ensure; split <;> simp_all

/-- Float operations; the partial ones raise where there is no result. -/
structure Floats (F : Type) where
  ofDecimal : ℚ → F
  sub : F → F → F
  div : F → F → Option F
  square : F → Option F
  fmean : List F → Option F
  pstdev : List F → Option F
  finite : F → Bool
  positive : F → Bool
  nonneg : F → Bool

def raised {α : Type} : Option α → Except IntradayError α
  | some a => .ok a
  | none => .error .arithmetic

/-- `xs[-k]`. -/
def back {α : Type} (xs : List α) (k : ℕ) : Except IntradayError α :=
  match xs.reverse[k - 1]? with
  | some a => .ok a
  | none => .error .index

/-- `xs[-k:]`. -/
def tailOf {α : Type} (xs : List α) (k : ℕ) : List α := xs.drop (xs.length - k)

variable {F : Type} (fl : Floats F)

/-! ## Features -/

def featureNames : List String :=
  ["return_1m", "return_5m", "return_15m", "return_30m", "realized_volatility_15m",
    "volume_change_15m", "relative_strength_15m", "distance_sma_15m", "distance_sma_30m",
    "momentum_acceleration", "market_return_15m", "market_volatility_15m"]

/-- `prices[-1] / prices[-k] - 1`. -/
def change (prices : List F) (k : ℕ) : Except IntradayError F := do
  let now ← back prices 1
  let past ← back prices k
  let ratio ← raised (fl.div now past)
  pure (fl.sub ratio (fl.ofDecimal 1))

/-- mirrors intraday.py:210-213 -/
def volatility (prices : List F) : Except IntradayError F := do
  let returns ← ((tailOf prices 16).dropLast.zip (tailOf prices 15)).mapM fun (a, b) => do
    let ratio ← raised (fl.div b a)
    pure (fl.sub ratio (fl.ofDecimal 1))
  raised (fl.pstdev returns)

/-- `prices[-1] / fmean(prices[-k:]) - 1`. -/
def distance (prices : List F) (k : ℕ) : Except IntradayError F := do
  let now ← back prices 1
  let average ← raised (fl.fmean (tailOf prices k))
  let ratio ← raised (fl.div now average)
  pure (fl.sub ratio (fl.ofDecimal 1))

/-- `asset[-1].volume / asset[-16].volume - 1`, in decimals. -/
def volumeChange (asset : List Bar) : Except IntradayError ℚ := do
  let now ← back asset 1
  let past ← back asset 16
  ensure (past.volume ≠ 0) .arithmetic
  pure (Decimal.sub (Decimal.div now.volume past.volume) 1)

/-- mirrors intraday.py:201-228 -/
def values (asset benchmark : List Bar) : Except IntradayError (List F) := do
  let closes := asset.map fun b => fl.ofDecimal b.close
  let market := benchmark.map fun b => fl.ofDecimal b.close
  let r5 ← change fl closes 6
  let r15 ← change fl closes 16
  let mr15 ← change fl market 16
  let r1 ← change fl closes 2
  let r30 ← change fl closes 31
  let realized ← volatility fl closes
  let volume ← volumeChange asset
  let sma15 ← distance fl closes 15
  let sma30 ← distance fl closes 30
  let third ← raised (fl.div r15 (fl.ofDecimal 3))
  let marketVolatility ← volatility fl market
  pure [r1, r5, r15, r30, realized, fl.ofDecimal volume, fl.sub r15 mr15, sma15, sma30,
    fl.sub r5 third, mr15, marketVolatility]

inductive EvidenceClass | prospectiveLocal | exploratoryHistorical
deriving DecidableEq, Repr

structure FeatureFields (F : Type) where
  symbol : String
  decisionAt : Int
  featureAt : Int
  targetAt : Int
  values : List F
  referenceClose : F
  benchmarkClose : F
  sourceSnapshotHash : String
  receiptAt : Int
  evaluationClass : EvidenceClass
deriving DecidableEq

/-- mirrors intraday.py:52-77 -/
structure IntradayFeatureRow (F : Type) extends FeatureFields F where
  width : values.length = featureNames.length
  target : targetAt = featureAt + horizon
  completed : featureAt ≤ decisionAt ∧ decisionAt ≤ featureAt + 2 * minute
  received : featureAt ≤ receiptAt
  prospective : evaluationClass = .prospectiveLocal → receiptAt ≤ decisionAt
deriving DecidableEq

def FeatureFields.construct (f : FeatureFields F) : Except IntradayError (IntradayFeatureRow F) :=
  if ¬ (f.symbol ≠ "" ∧ f.sourceSnapshotHash ≠ "" ∧ (∀ x ∈ f.values, fl.finite x = true) ∧
      fl.finite f.referenceClose = true ∧ fl.positive f.referenceClose = true ∧
      fl.finite f.benchmarkClose = true ∧ fl.positive f.benchmarkClose = true) then
    .error (.validation "field")
  else if width : f.values.length = featureNames.length then
    if target : f.targetAt = f.featureAt + horizon then
      if completed : f.featureAt ≤ f.decisionAt ∧ f.decisionAt ≤ f.featureAt + 2 * minute then
        if received : f.featureAt ≤ f.receiptAt then
          if prospective : f.evaluationClass = .prospectiveLocal → f.receiptAt ≤ f.decisionAt then
            .ok ⟨f, width, target, completed, received, prospective⟩
          else .error (.validation "receipt must precede prospective decision")
        else .error (.validation "receipt cannot precede feature completion")
      else .error (.validation
        "feature cutoff must be completed and no more than two minutes old")
    else .error (.validation "target must be exactly thirty minutes after feature cutoff")
  else .error (.validation "values must match fixed intraday features")

theorem FeatureFields.construct_ok {f : FeatureFields F} {row : IntradayFeatureRow F}
    (h : f.construct fl = .ok row) : row.toFeatureFields = f := by
  unfold FeatureFields.construct at h; split at h
  · cases h
  repeat' split at h
  all_goals cases h
  rfl

/-! ## Bars -/

abbrev Indexed := Table Bar fun b => (b.symbol, b.timestamp)

def insertBar (t : Indexed) (b : Bar) : Except IntradayError Indexed :=
  if b.timestamp % minute ≠ 0 then
    .error (.value "minute bars must have aligned interval-start timestamps")
  else if (t.get? (b.symbol, b.timestamp)).isSome then .error (.value "duplicate symbol/minute bar")
  else .ok (t.insert b)

/-- `_index`.
mirrors intraday.py:189-198 -/
def index (bars : List Bar) : Except IntradayError Indexed := bars.foldlM insertBar .empty

/-- The thirty-one minutes from `first` on. -/
def minutes (first : Int) : List Int := (List.range 31).map fun (i : ℕ) => first + i * minute

def panel (t : Indexed) (symbol : String) (first : Int) : List Bar :=
  (minutes first).filterMap fun at_ => t.get? (symbol, at_)

/-- The newest completed minute of the required panel. -/
def latest (t : Indexed) (required : List String) (openAt decisionAt : Int) : Option Int :=
  ((t.rows.filter fun b => b.symbol ∈ required ∧ openAt ≤ b.timestamp ∧
    b.timestamp + minute ≤ decisionAt).map (·.timestamp)).max?

def sorted (symbols : List String) : List String := symbols.insertionSort (· ≤ ·)

def featureRow (t : Indexed) (first featureAt decisionAt : Int) (sourceSnapshotHash : String)
    (receiptAt : Int) (evaluationClass : EvidenceClass) (symbol : String) :
    Except IntradayError (IntradayFeatureRow F) := do
  let asset := panel t symbol first
  let benchmark := panel t "SPY" first
  let found ← values fl asset benchmark
  let close ← back asset 1
  let benchmarkClose ← back benchmark 1
  FeatureFields.construct fl
    { symbol := symbol
      decisionAt := decisionAt
      featureAt := featureAt
      targetAt := featureAt + horizon
      values := found
      referenceClose := fl.ofDecimal close.close
      benchmarkClose := fl.ofDecimal benchmarkClose.close
      sourceSnapshotHash := sourceSnapshotHash
      receiptAt := receiptAt
      evaluationClass := evaluationClass }

/-- A symbol of a cohort; upper-casing is of ASCII letters. -/
def validSymbol (s : String) : Bool := s ≠ "" ∧ s = (strip s).toUpper ∧ s ≠ "SPY"

/-- The cohort at the newest completed minute of a session: every symbol, or none.
mirrors intraday.py:256-299 -/
def cohortAt (t : Indexed) (session : XNYSSession) (decisionAt : Int) (symbols : List String)
    (sourceSnapshotHash : String) (receiptAt : Int) (evaluationClass : EvidenceClass) :
    Except IntradayError (List (IntradayFeatureRow F)) :=
  let required := sorted symbols ++ ["SPY"]
  match latest t required session.openAt decisionAt with
  | none => .ok []
  | some last =>
    let featureAt := last + minute
    let first := last - 30 * minute
    if 2 * minute < decisionAt - featureAt ∨ session.closeAt < featureAt + horizon then .ok []
    else if first < session.openAt then .ok []
    else if ∃ s ∈ required, ∃ at_ ∈ minutes first, t.get? (s, at_) = none then .ok []
    else (sorted symbols).mapM
      (featureRow fl t first featureAt decisionAt sourceSnapshotHash receiptAt evaluationClass)

/-- `_build_features`.
mirrors intraday.py:231-299 -/
def buildFeaturesIndexed (t : Indexed) (calendar : XNYSSessionSequence) (decisionAt : Int)
    (symbols : List String) (sourceSnapshotHash : String) (receiptAt : Int)
    (evaluationClass : EvidenceClass) : Except IntradayError (List (IntradayFeatureRow F)) := do
  ensure (evaluationClass = .prospectiveLocal → receiptAt ≤ decisionAt)
    (.value "receipt cannot follow decision")
  ensure (symbols ≠ [] ∧ symbols.Nodup ∧ ∀ s ∈ symbols, validSymbol s = true)
    (.value "symbols must be unique uppercase assets excluding SPY")
  match calendar.sessions.find? fun s => s.openAt ≤ decisionAt ∧ decisionAt < s.closeAt with
  | none => pure []
  | some session =>
    cohortAt fl t session decisionAt symbols sourceSnapshotHash receiptAt evaluationClass

/-- mirrors intraday.py:302-320 -/
def buildFeatures (bars : List Bar) (calendar : XNYSSessionSequence) (decisionAt : Int)
    (symbols : List String) (sourceSnapshotHash : String) (receiptAt : Int) :
    Except IntradayError (List (IntradayFeatureRow F)) := do
  let t ← index bars
  buildFeaturesIndexed fl t calendar decisionAt symbols sourceSnapshotHash receiptAt
    .prospectiveLocal

/-! ## Labels -/

structure LabelFields (F : Type) where
  features : IntradayFeatureRow F
  rawReturn : F
  benchmarkReturn : F
  excessReturn : F
  availableAt : Int
  sourceSnapshotHash : String
  evaluationClass : EvidenceClass
deriving DecidableEq

/-- mirrors intraday.py:80-96 -/
structure IntradayLabel (F : Type) extends LabelFields F where
  available : features.targetAt ≤ availableAt
  evidence : evaluationClass = features.evaluationClass
deriving DecidableEq

def LabelFields.construct (f : LabelFields F) : Except IntradayError (IntradayLabel F) :=
  if ¬ (f.sourceSnapshotHash ≠ "" ∧ fl.finite f.rawReturn = true ∧
      fl.finite f.benchmarkReturn = true ∧ fl.finite f.excessReturn = true) then
    .error (.validation "field")
  else if available : f.features.targetAt ≤ f.availableAt then
    if evidence : f.evaluationClass = f.features.evaluationClass then
      .ok ⟨f, available, evidence⟩
    else .error (.validation "label evidence must match its features")
  else .error (.validation "label availability cannot precede target")

theorem LabelFields.construct_ok {f : LabelFields F} {label : IntradayLabel F}
    (h : f.construct fl = .ok label) : label.toLabelFields = f := by
  unfold LabelFields.construct at h
  repeat' split at h
  all_goals cases h
  rfl

/-- `_resolve_indexed`.
mirrors intraday.py:343-366 -/
def resolveIndexed (features : IntradayFeatureRow F) (t : Indexed) (receiptAt : Int)
    (sourceSnapshotHash : String) : Except IntradayError (Option (IntradayLabel F)) :=
  match t.get? (features.symbol, features.targetAt - minute),
      t.get? ("SPY", features.targetAt - minute) with
  | some asset, some market => do
    let ratio ← raised (fl.div (fl.ofDecimal asset.close) features.referenceClose)
    let raw := fl.sub ratio (fl.ofDecimal 1)
    let marketRatio ← raised (fl.div (fl.ofDecimal market.close) features.benchmarkClose)
    let benchmark := fl.sub marketRatio (fl.ofDecimal 1)
    let label ← LabelFields.construct fl
      { features := features
        rawReturn := raw
        benchmarkReturn := benchmark
        excessReturn := fl.sub raw benchmark
        availableAt := receiptAt
        sourceSnapshotHash := sourceSnapshotHash
        evaluationClass := features.evaluationClass }
    pure (some label)
  | _, _ => pure none

/-- mirrors intraday.py:323-340 -/
def resolveLabel (features : IntradayFeatureRow F) (bars : List Bar) (resolvedAt receiptAt : Int)
    (sourceSnapshotHash : String) : Except IntradayError (Option (IntradayLabel F)) :=
  if features.targetAt ≤ receiptAt ∧ receiptAt ≤ resolvedAt then do
    let t ← index bars
    resolveIndexed fl features t receiptAt sourceSnapshotHash
  else pure none

/-- The labels of one historical decision. -/
def labelsAt (t : Indexed) (calendar : XNYSSessionSequence) (symbols : List String)
    (sourceSnapshotHash : String) (observedAt decisionAt : Int) :
    Except IntradayError (List (IntradayLabel F)) := do
  ensure (decisionAt ≤ observedAt) (.value "historical decisions must already be observed")
  let rows ← buildFeaturesIndexed fl t calendar decisionAt symbols sourceSnapshotHash observedAt
    .exploratoryHistorical
  let found ← rows.mapM fun row =>
    if observedAt < row.targetAt then pure none
    else resolveIndexed fl row t observedAt sourceSnapshotHash
  pure (found.filterMap id)

/-- mirrors intraday.py:369-412 -/
def buildHistoricalLabels (bars : List Bar) (calendar : XNYSSessionSequence)
    (decisionTimes : List Int) (symbols : List String) (sourceSnapshotHash : String)
    (observedAt : Int) : Except IntradayError (List (IntradayLabel F)) := do
  ensure decisionTimes.Nodup (.value "duplicate historical decision time")
  let t ← index bars
  let found ← (decisionTimes.insertionSort (· ≤ ·)).mapM
    (labelsAt fl t calendar symbols sourceSnapshotHash observedAt)
  pure found.flatten

/-! ## Fitting -/

/-- mirrors estimators.py:37-52 -/
structure FittedEstimator (F : Type) where
  family : String
  featureNames : List String
  means : List F
  scales : List F
  coefficients : List F
  intercept : F
  alpha : F
  trainingMse : F
  seed : Int
  algorithmVersion : String
  sampleWeights : Option (List F) := none
deriving DecidableEq

/-- `fit_estimator` and `predict`. -/
structure Estimators (F : Type) where
  fit : List (List F) → List F → List String → String → F → Int →
    Except IntradayError (FittedEstimator F)
  predict : FittedEstimator F → List (List F) → Except IntradayError (List F)

/-- The content ids of a label and of a list of labels. -/
structure LabelIds (F : Type) where
  label : IntradayLabel F → String
  labels : List (IntradayLabel F) → String

structure ModelFields (F : Type) where
  artifact : FittedEstimator F
  trainingSymbols : List String
  createdAt : Int
  trainingStart : Int
  trainingEnd : Int
  validationStart : Int
  validationEnd : Int
  trainingCount : ℕ
  validationCount : ℕ
  trainingLabelIds : List String
  validationLabelIds : List String
  trainingDataHash : String
  validationDataHash : String
  validationMse : F
  codeCommit : String
  parentModelId : Option String
deriving DecidableEq

/-- mirrors intraday.py:104-151 -/
structure IntradayModel (F : Type) extends ModelFields F where
  trained : trainingStart ≤ trainingEnd ∧ trainingEnd < validationStart
  validated : validationStart ≤ validationEnd ∧ validationEnd < createdAt
  distinct : (trainingLabelIds ++ validationLabelIds).Nodup
  counted : trainingLabelIds.length = trainingCount ∧ validationLabelIds.length = validationCount
deriving DecidableEq

def ModelFields.construct [DecidableEq F] (f : ModelFields F) :
    Except IntradayError (IntradayModel F) :=
  if ¬ (f.trainingSymbols ≠ [] ∧ 1 ≤ f.trainingCount ∧ 1 ≤ f.validationCount ∧
      fl.finite f.validationMse = true ∧ fl.nonneg f.validationMse = true ∧
      f.trainingDataHash ≠ "" ∧ f.validationDataHash ≠ "" ∧ f.codeCommit ≠ "" ∧
      f.parentModelId ≠ some "") then
    .error (.validation "field")
  else if f.artifact.featureNames ≠ featureNames then
    .error (.validation "model feature names must match intraday contract")
  else if f.trainingSymbols ≠ sorted f.trainingSymbols.dedup ∨
      ∃ s ∈ f.trainingSymbols, validSymbol s = false then
    .error (.validation "model roster must contain sorted unique uppercase assets excluding SPY")
  else if f.artifact.family ≠ "mean" ∧ f.artifact.family ≠ "ridge" then
    .error (.validation "intraday estimator family must be mean or ridge")
  else if f.artifact.alpha ≠ fl.ofDecimal 1 ∨ f.artifact.seed ≠ 0 then
    .error (.validation "intraday fit requires alpha=1 and seed=0")
  else if trained : f.trainingStart ≤ f.trainingEnd ∧ f.trainingEnd < f.validationStart then
    if validated : f.validationStart ≤ f.validationEnd ∧ f.validationEnd < f.createdAt then
      if distinct : (f.trainingLabelIds ++ f.validationLabelIds).Nodup then
        if counted : f.trainingLabelIds.length = f.trainingCount ∧
            f.validationLabelIds.length = f.validationCount then
          .ok ⟨f, trained, validated, distinct, counted⟩
        else .error (.validation "label counts must match model lineage")
      else .error (.validation "training and validation label IDs must be unique")
    else .error (.validation "model creation must follow validation targets")
  else .error (.validation "training targets must strictly precede validation")

theorem ModelFields.construct_ok [DecidableEq F] {f : ModelFields F} {m : IntradayModel F}
    (h : f.construct fl = .ok m) : m.toModelFields = f := by
  unfold ModelFields.construct at h
  repeat' split at h
  all_goals cases h
  rfl

def IntradayLabel.key (l : IntradayLabel F) : String × Int :=
  (l.features.symbol, l.features.decisionAt)

/-- `min` and `max` of a sequence, which raise on an empty one. -/
def extreme (found : Option Int) : Except IntradayError Int :=
  match found with
  | some x => .ok x
  | none => .error (.value "arg is an empty sequence")

/-- The symbols with a label, sorted. -/
def rosterOf (labels : List (IntradayLabel F)) : List String :=
  sorted (labels.map fun l => l.features.symbol).dedup

/-- Every cohort has a label of every symbol of the roster. -/
def completeRoster (labels : List (IntradayLabel F)) : Prop :=
  ∀ l ∈ labels, ∀ s ∈ rosterOf labels,
    ∃ l' ∈ labels, l'.features.decisionAt = l.features.decisionAt ∧ l'.features.symbol = s
deriving Decidable

/-- In the order of decision and symbol. -/
def ordered (labels : List (IntradayLabel F)) : List (IntradayLabel F) :=
  labels.insertionSort fun a b => a.features.decisionAt < b.features.decisionAt ∨
    a.features.decisionAt = b.features.decisionAt ∧ a.features.symbol ≤ b.features.symbol

/-- The labels that are fitted: their target is before the boundary. -/
def trainingOf (labels : List (IntradayLabel F)) (validationStart : Int) : List (IntradayLabel F) :=
  (ordered labels).filter fun l => l.features.targetAt < validationStart

def validationOf (labels : List (IntradayLabel F)) (validationStart : Int) :
    List (IntradayLabel F) :=
  (ordered labels).filter fun l => validationStart ≤ l.features.decisionAt

/-- mirrors intraday.py:415-473 -/
def fitIntradayModel [DecidableEq F] (est : Estimators F) (ids : LabelIds F)
    (labels : List (IntradayLabel F)) (validationStart createdAt : Int) (codeCommit family : String)
    (parentModelId : Option String) : Except IntradayError (IntradayModel F) := do
  ensure (family = "mean" ∨ family = "ridge") (.value "intraday family must be mean or ridge")
  ensure (labels.map IntradayLabel.key).Nodup (.value "duplicate training label observation")
  ensure (completeRoster labels)
    (.value "training requires a complete stable roster in every cohort")
  ensure (∀ l ∈ labels, l.availableAt < createdAt)
    (.value "all training and validation labels must be observed before creation")
  let training := trainingOf labels validationStart
  let validation := validationOf labels validationStart
  ensure (training ≠ [] ∧ validation ≠ [])
    (.value "nonempty purged training and validation partitions required")
  let artifact ← est.fit (training.map fun l => l.features.values)
    (training.map fun l => l.excessReturn) featureNames family (fl.ofDecimal 1) 0
  let scores ← est.predict artifact (validation.map fun l => l.features.values)
  ensure (scores.length = validation.length) (.value "zip() arguments have different lengths")
  let squares ← (validation.zip scores).mapM fun (l, score) =>
    raised (fl.square (fl.sub l.excessReturn score))
  let mse ← raised (fl.fmean squares)
  let trainingStart ← extreme (training.map fun l => l.features.decisionAt).min?
  let trainingEnd ← extreme (training.map fun l => l.features.targetAt).max?
  let validationEnd ← extreme (validation.map fun l => l.features.targetAt).max?
  ModelFields.construct fl
    { artifact := artifact
      trainingSymbols := rosterOf labels
      createdAt := createdAt
      trainingStart := trainingStart
      trainingEnd := trainingEnd
      validationStart := validationStart
      validationEnd := validationEnd
      trainingCount := training.length
      validationCount := validation.length
      trainingLabelIds := training.map ids.label
      validationLabelIds := validation.map ids.label
      trainingDataHash := ids.labels training
      validationDataHash := ids.labels validation
      validationMse := mse
      codeCommit := codeCommit
      parentModelId := parentModelId }

/-! ## Predictions -/

structure PredictionFields (F : Type) where
  modelId : String
  features : IntradayFeatureRow F
  recordedAt : Int
  score : F
deriving DecidableEq

/-- mirrors intraday.py:162-181 -/
structure IntradayPrediction (F : Type) extends PredictionFields F where
  prospective : features.evaluationClass = .prospectiveLocal
  clock : features.decisionAt ≤ recordedAt ∧ recordedAt ≤ features.decisionAt + 5 * minute ∧
    recordedAt < features.targetAt
  received : features.receiptAt ≤ recordedAt
deriving DecidableEq

def PredictionFields.construct (f : PredictionFields F) :
    Except IntradayError (IntradayPrediction F) :=
  if ¬ (f.modelId ≠ "" ∧ fl.finite f.score = true) then .error (.validation "field")
  else if prospective : f.features.evaluationClass = .prospectiveLocal then
    if clock : f.features.decisionAt ≤ f.recordedAt ∧
        f.recordedAt ≤ f.features.decisionAt + 5 * minute ∧ f.recordedAt < f.features.targetAt then
      if received : f.features.receiptAt ≤ f.recordedAt then
        .ok ⟨f, prospective, clock, received⟩
      else .error (.validation "recording must follow receipt")
    else .error (.validation
      "recorded_at must follow decision within five minutes before target")
  else .error (.validation "historical features cannot issue prospective predictions")

/-- What the rows of one forecast have in common. -/
def IntradayFeatureRow.cohort (r : IntradayFeatureRow F) : Int × Int × Int × Int × String :=
  (r.decisionAt, r.featureAt, r.targetAt, r.receiptAt, r.sourceSnapshotHash)

/-- mirrors intraday.py:476-503 -/
def predictIntraday (est : Estimators F) (modelId : IntradayModel F → String) (m : IntradayModel F)
    (features : List (IntradayFeatureRow F)) (recordedAt : Int) :
    Except IntradayError (List (IntradayPrediction F)) := do
  ensure (sorted (features.map (·.symbol)).dedup = m.trainingSymbols)
    (.value "forecast roster must exactly match model training roster")
  ensure (∀ row ∈ features, m.createdAt ≤ row.decisionAt)
    (.value "model must exist before forecast decision")
  ensure ((features.map (·.cohort)).dedup.length ≤ 1)
    (.value "predictions must share one decision and source cohort")
  ensure (features.map fun r => (r.symbol, r.decisionAt)).Nodup
    (.value "duplicate feature observation")
  let scores ← est.predict m.artifact (features.map (·.values))
  ensure (scores.length = features.length) (.value "zip() arguments have different lengths")
  (features.zip scores).mapM fun (row, score) => PredictionFields.construct fl
    { modelId := modelId m, features := row, recordedAt := recordedAt, score := score }

end Quantbot.L4.Intraday
