import Quantbot.L4Learner.Repository

/-!
# Reading the repository

What each read of the repository answers, as a function of the tables alone, and that the reads
through the session's caches answer it (`getDataset_reads`, `getModel_reads`,
`getPrediction_reads`, `getOutcome_reads`, `getEvaluation_reads`). The one thing asked of a session
is `Checked`: a pair of documents is remembered as checked only where the check passes.
-/
namespace Quantbot.L4.Learner

open Core L1 L3.Registry
open L4.Intraday (minute FittedEstimator)
open Txn

variable {R Row D H : Type}

/-! ## Documents -/

section Documents
variable [DecidableEq Row] [DecidableEq D] [DecidableEq H] (k : Kind R Row D H)

def readParsed (row : Row) (identity : String) : Except LedgerError R :=
  match k.parse (k.documentJson row) with
  | none => .error (k.stored identity " document does not satisfy its typed contract")
  | some record =>
    if k.print record = k.documentJson row then
      if row = k.payload record row then .ok record
      else .error (k.stored identity " promoted fields do not match its document")
    else .error (k.stored identity " document is not canonical")

/-- The document of a row, without a cache. -/
def readDocument (row : Row) (identity : String) : Except LedgerError R := do
  ensure (k.documentHash row = k.hash (k.documentJson row))
    (k.stored identity " document hash does not match")
  readParsed k row identity

variable {k}

omit [DecidableEq H] in
theorem readParsed_of {row : Row} {record : R} (h : k.parse (k.documentJson row) = some record)
    (identity : String) : readParsed k row identity =
      if k.print record = k.documentJson row then
        if row = k.payload record row then .ok record
        else .error (k.stored identity " promoted fields do not match its document")
      else .error (k.stored identity " document is not canonical") := by
  unfold readParsed; rw [h]

omit [DecidableEq H] in
theorem parseDocument_cases (row : Row) (identity : String) :
    (k.parse (k.documentJson row) = none ∧ parseDocument k row identity =
      throw (k.stored identity " document does not satisfy its typed contract")) ∨
    ∃ record h, parseDocument k row identity = keepParsed k row identity record h := by
  unfold parseDocument; split
  · rename_i h; exact .inl ⟨h, rfl⟩
  · rename_i record h; exact .inr ⟨record, h, rfl⟩

omit [DecidableEq H] in
theorem parseDocument_answer (row : Row) (identity : String) (c : Cache k) :
    answer (parseDocument k row identity) c = readParsed k row identity := by
  rcases parseDocument_cases (k := k) row identity with ⟨hnone, h⟩ | ⟨record, hsome, h⟩
  · rw [h]; unfold readParsed; rw [hnone]; rfl
  rw [h, readParsed_of hsome]; unfold keepParsed; split
  · split
    · rfl
    · rfl
  · rfl

omit [DecidableEq H] in
theorem cachedOr_answer (row : Row) (identity : String) (entry : Option (Entry k)) (c : Cache k) :
    answer (cachedOr k row identity entry) c = readParsed k row identity := by
  cases entry with
  | none => exact parseDocument_answer row identity c
  | some entry =>
    unfold cachedOr; dsimp only; split
    · -- the entry was read from this very document
      rename_i hraw; have hread := entry.read
      have hcanonical := entry.canonical; rw [hraw] at hread hcanonical
      rw [readParsed_of hread, if_pos hcanonical]; unfold require; split
      · rfl
      · rfl
    · exact parseDocument_answer row identity c

/-- **A cached document** is answered as the stored one is. -/
theorem loadDocument_answer (row : Row) (identity : String) (c : Cache k) :
    answer (loadDocument k row identity) c = readDocument k row identity := by
  unfold loadDocument readDocument require ensure
  by_cases hhash : k.documentHash row = k.hash (k.documentJson row)
  · rw [if_pos hhash, if_pos hhash]
    exact cachedOr_answer row identity (c identity) c
  · rw [if_neg hhash, if_neg hhash]; rfl

omit [DecidableEq H] in
theorem parseDocument_cached {row : Row} {identity : String} {c c' : Cache k} {r : R}
    (h : parseDocument k row identity c = .ok r c') :
    ∃ entry, c' identity = some entry ∧ entry.record = r := by
  rcases parseDocument_cases (k := k) row identity with ⟨_, heq⟩ | ⟨record, hsome, heq⟩
  · rw [heq] at h; cases h
  rw [heq] at h; unfold keepParsed at h; split at h
  · split at h
    · obtain ⟨_, c₁, hmodify, hpure⟩ := bind_ok.1 h; rw [modify_ok] at hmodify
      obtain ⟨rfl, rfl⟩ := pure_ok.1 hpure; rw [hmodify]
      exact ⟨_, Function.update_self .., rfl⟩
    · cases h
  · cases h

omit [DecidableEq H] in
theorem cachedOr_cached {row : Row} {identity : String} {c c' : Cache k} {r : R}
    (h : cachedOr k row identity (c identity) c = .ok r c') :
    ∃ entry, c' identity = some entry ∧ entry.record = r := by
  cases hentry : c identity with
  | none =>
    rw [hentry] at h; exact parseDocument_cached h
  | some entry =>
    rw [hentry] at h; unfold cachedOr at h; dsimp only at h; split at h
    · obtain ⟨_, c₁, hrequire, hpure⟩ := bind_ok.1 h
      obtain ⟨_, hc₁⟩ := require_ok.1 hrequire
      obtain ⟨hr, hc'⟩ := pure_ok.1 hpure; rw [← hc', hc₁]
      exact ⟨entry, hentry, hr⟩
    · exact parseDocument_cached h

theorem loadDocument_cached {row : Row} {identity : String} {c c' : Cache k} {r : R}
    (h : loadDocument k row identity c = .ok r c') :
    ∃ entry, c' identity = some entry ∧ entry.record = r := by
  obtain ⟨_, c₁, _, h⟩ := bind_ok.1 h
  obtain ⟨cache, c₂, hget, h⟩ := bind_ok.1 h; obtain ⟨rfl, rfl⟩ := get_ok.1 hget
  exact cachedOr_cached h

theorem readDocument_of {row : Row} {identity : String} {r : R}
    (hhash : k.documentHash row = k.hash (k.documentJson row))
    (hprint : k.print r = k.documentJson row) (hparse : k.parse (k.print r) = some r)
    (hpayload : row = k.payload r row) : readDocument k row identity = .ok r := by
  rw [hprint] at hparse; unfold readDocument readParsed; rw [hparse]
  dsimp only; rw [if_pos hprint, if_pos hpayload]; unfold ensure
  rw [if_pos hhash]; rfl

end Documents

/-! ## Readers of the tables -/

variable {F : Type} (env : Evidence F D H) [DecidableEq D] [DecidableEq H]

section Readers
variable (l : Ledger D H)

def datasetOf (datasetId : String) : Except LedgerError (Dataset F) := do
  let row ← found ("learner dataset not found: " ++ datasetId) (l.datasets.get? datasetId)
  readDocument env.datasetKind row datasetId

def modelOf (modelId : String) : Except LedgerError (ModelVersion F) := do
  let row ← found ("learner model not found: " ++ modelId) (l.models.get? modelId)
  let model ← readDocument env.modelKind row modelId
  let dataset ← datasetOf env l model.datasetId
  requireModelMatchesDataset env model dataset false
  pure model

def predictionOf (predictionId : String) : Except LedgerError (Prediction F) := do
  let row ← found ("learner prediction not found: " ++ predictionId)
    (l.predictions.get? predictionId)
  let prediction ← readDocument env.predictionKind row predictionId
  let model ← modelOf env l prediction.modelId
  let dataset ← datasetOf env l model.datasetId
  requirePredictionMatchesModel env prediction model dataset row.recordedAt
  pure prediction

def predictionsOf (modelId : Option String) : Except LedgerError (List (Prediction F)) :=
  (predictionIdsOf l modelId).mapM (predictionOf env l)

def outcomeIn (predictionId : String) :
    Option (OutcomeRow D H) → Except LedgerError (Option (Outcome F))
  | none => .ok none
  | some row => do
    let outcome ← readDocument env.outcomeKind row predictionId
    let prediction ← predictionOf env l outcome.predictionId
    requireOutcomeMatchesPrediction env outcome prediction
    pure (some outcome)

def outcomeOf (predictionId : String) : Except LedgerError (Option (Outcome F)) :=
  outcomeIn env l predictionId (l.outcomes.get? predictionId)

def cohortIn (e : Evaluation) (complete : Bool) : Except LedgerError PUnit :=
  if complete then do
    let stored ← predictionsOf env l (some e.modelId)
    requireCohort e stored
  else .ok ⟨⟩

def scoredIn (e : Evaluation) (expected : List (Prediction F)) (predictionId : String) :
    Except LedgerError (ScoredRow F) := do
  let outcome ← outcomeOf env l predictionId
  scoredOf e expected predictionId outcome

def inputsOf (e : Evaluation) (complete : Bool) : Except LedgerError PUnit := do
  let _ ← modelOf env l e.modelId
  ensure (env.metricsText e.metricsJson ≠ .invalid)
    (.conflict "evaluation metrics_json is not valid JSON")
  ensure (env.metricsText e.metricsJson = .canonicalObject)
    (.conflict "evaluation metrics_json must be a canonical JSON object")
  let expected ← e.expectedPredictionIds.mapM (predictionOf env l)
  requireMembers e expected
  cohortIn env l e complete
  let scored ← e.predictionIds.mapM (scoredIn env l e expected)
  requireMetrics env e expected scored

def evaluationOf (evaluationId : String) : Except LedgerError Evaluation := do
  let row ← found ("learner evaluation not found: " ++ evaluationId)
    (l.evaluations.get? evaluationId)
  let evaluation ← readDocument env.evaluationKind row evaluationId
  inputsOf env l evaluation false
  pure evaluation

end Readers

/-! ## The reads of a session -/

variable {env}

/-- The part of a session that the reads leave as it is. -/
structure Shown (D H : Type) where
  ledger : Ledger D H
  pending : List String

def Session.shown (s : Session env) : Shown D H := ⟨s.ledger, s.pending⟩

/-- Two documents are remembered as checked only where the check passes. -/
def Checked (s : Session env) : Prop :=
  ∀ key ∈ s.modelDatasetChecks, ∀ m d, env.models.parse key.1 = some m →
    env.datasets.parse key.2 = some d → requireModelMatchesDataset env m d false = .ok ⟨⟩

/-- A property that the dataset documents in memory do not touch. -/
def Untouched (good : Session env → Prop) : Prop :=
  ∀ s c, good s → good { s with datasetCache := c }

theorem getDataset_reads {good : Session env → Prop} (hgood : Untouched good) (datasetId : String) :
    Reads Session.shown good (getDataset env datasetId)
      fun v => datasetOf env v.ledger datasetId := by
  refine Reads.get (g := fun (v _ : Shown D H) => datasetOf env v.ledger datasetId) fun s _ => ?_
  refine (Reads.raising _).bind fun row => ?_
  exact Reads.zoom (loadDocument_answer row datasetId) (fun _ _ => rfl) hgood

variable {d : Dataset F}

theorem getDataset_cached {datasetId : String} {s s' : Session env}
    (h : getDataset env datasetId s = .ok d s') :
    ∃ entry, s'.datasetCache datasetId = some entry ∧ entry.record = d := by
  obtain ⟨_, _, _, h⟩ := bind_ok.1 h; obtain ⟨_, _, _, h⟩ := bind_ok.1 h
  obtain ⟨c, hload, rfl⟩ := zoom_ok.1 h; exact loadDocument_cached hload

/-- The session has the model in memory. -/
def HasModel (modelId : String) (m : ModelVersion F) (s : Session env) : Prop :=
  Checked s ∧ ∃ entry, s.modelCache modelId = some entry ∧ entry.record = m

/-- The session has the model and its dataset in memory. -/
def HasBoth (modelId : String) (m : ModelVersion F) (d : Dataset F) (s : Session env) : Prop :=
  HasModel modelId m s ∧ ∃ entry, s.datasetCache m.datasetId = some entry ∧ entry.record = d

omit [DecidableEq D] [DecidableEq H] in
theorem cachedModel_reads {modelId : String} {m : ModelVersion F} :
    Reads Session.shown (HasBoth modelId m d : Session env → Prop) (cachedModel env modelId)
      fun _ => .ok (env.models.print m) := by
  refine Reads.get (g := fun _ _ => .ok (env.models.print m)) fun s hs => ?_
  obtain ⟨⟨_, entry, hentry, rfl⟩, _⟩ := hs; rw [hentry]; dsimp only
  rw [← entry.canonical]; exact Reads.pure _

omit [DecidableEq D] [DecidableEq H] in
theorem cachedDataset_reads {modelId : String} {m : ModelVersion F} :
    Reads Session.shown (HasBoth modelId m d : Session env → Prop) (cachedDataset env m.datasetId)
      fun _ => .ok (env.datasets.print d) := by
  refine Reads.get (g := fun _ _ => .ok (env.datasets.print d)) fun s hs => ?_
  obtain ⟨_, entry, hentry, rfl⟩ := hs; rw [hentry]; dsimp only
  rw [← entry.canonical]; exact Reads.pure _

omit [DecidableEq H] in
theorem checkDependency_reads {modelId : String} {m : ModelVersion F} :
    Reads Session.shown (HasBoth modelId m d : Session env → Prop)
      (checkDependency env m d (env.models.print m, env.datasets.print d))
      fun _ => requireModelMatchesDataset env m d false := by
  refine Reads.get (g := fun _ _ => requireModelMatchesDataset env m d false) fun s hs => ?_
  obtain ⟨⟨hchecked, entry, _, hm⟩, entry', _, hd⟩ := id hs
  have hparse : env.models.parse (env.models.print m) = some m := by
    have hread := entry.read; rw [← entry.canonical, hm] at hread; exact hread
  have hparse' : env.datasets.parse (env.datasets.print d) = some d := by
    have hread := entry'.read; rw [← entry'.canonical, hd] at hread; exact hread
  split
  · rename_i hkey; rw [hchecked _ hkey m d hparse hparse']; exact Reads.pure _
  refine Reads.of_cases (fun s u s' hs hx => ?_) fun s e s' hs hx => ?_
  · obtain ⟨_, s₁, hcheck, hmodify⟩ := bind_ok.1 hx
    obtain ⟨hpass, rfl⟩ := raising_ok.1 hcheck; rw [modify_ok] at hmodify
    subst hmodify; refine ⟨hpass, rfl, ⟨?_, hs.1.2⟩, hs.2⟩
    intro key hkey m' d' hm' hd'; rcases List.mem_cons.1 hkey with rfl | hkey
    · rw [hparse] at hm'; rw [hparse'] at hd'
      rw [← Option.some.inj hm', ← Option.some.inj hd']; exact hpass
    · exact hs.1.1 key hkey m' d' hm' hd'
  · rcases bind_error.1 hx with hcheck | ⟨_, s₁, _, hmodify⟩
    · exact (Reads.raising _).error hs hcheck
    · cases hmodify

/-- **A model read** through the caches is the model of the tables. -/
theorem getModel_reads (modelId : String) :
    Reads Session.shown (Checked : Session env → Prop) (getModel env modelId)
      fun v => modelOf env v.ledger modelId := by
  refine Reads.get (g := fun (v w : Shown D H) => found ("learner model not found: " ++ modelId)
    (v.ledger.models.get? modelId) >>= fun row =>
      readDocument env.modelKind row modelId >>= fun m =>
      datasetOf env w.ledger m.datasetId >>= fun d => requireModelMatchesDataset env m d false >>=
      fun _ => pure m) fun s _ => ?_
  refine (Reads.raising _).bind fun row => ?_
  refine Reads.bind_of (Q := HasModel modelId) ?_ ?_ (fun m => ?_) fun _ _ h => h.1
  · exact Reads.zoom (loadDocument_answer row modelId) (fun _ _ => rfl) fun _ _ h => h
  · intro s m s' hs h; obtain ⟨c, hload, rfl⟩ := zoom_ok.1 h
    exact ⟨hs, loadDocument_cached hload⟩
  · have hdataset : Reads Session.shown (HasModel modelId m : Session env → Prop)
        (getDataset env m.datasetId) fun v => datasetOf env v.ledger m.datasetId :=
      getDataset_reads (fun _ _ h => h) m.datasetId
    refine Reads.bind_of (Q := fun d => HasBoth modelId m d) hdataset ?_ (fun d => ?_)
      fun _ _ h => h.1
    · intro s d s' hs h; exact ⟨(hdataset.ok hs h).2.2, getDataset_cached h⟩
    · refine cachedModel_reads.then (cachedDataset_reads.then ?_)
      exact checkDependency_reads.bind fun _ => Reads.pure m

theorem getDataset_checked (datasetId : String) :
    Reads Session.shown (Checked : Session env → Prop) (getDataset env datasetId)
      fun v => datasetOf env v.ledger datasetId :=
  getDataset_reads (fun _ _ h => h) datasetId

theorem getPrediction_reads (predictionId : String) :
    Reads Session.shown (Checked : Session env → Prop) (getPrediction env predictionId)
      fun v => predictionOf env v.ledger predictionId := by
  refine Reads.get (g := fun (v w : Shown D H) =>
    found ("learner prediction not found: " ++ predictionId)
      (v.ledger.predictions.get? predictionId) >>= fun row =>
      readDocument env.predictionKind row predictionId >>= fun p =>
      modelOf env w.ledger p.modelId >>= fun m => datasetOf env w.ledger m.datasetId >>= fun d =>
      requirePredictionMatchesModel env p m d row.recordedAt >>= fun _ => pure p) fun s _ => ?_
  refine (Reads.raising _).bind fun row => ?_; refine Reads.bind ?_ fun p => ?_
  · exact Reads.zoom (loadDocument_answer row predictionId) (fun _ _ => rfl) fun _ _ h => h
  refine (getModel_reads p.modelId).bind fun m => ?_
  refine (getDataset_checked m.datasetId).bind fun d => ?_
  exact (Reads.raising _).bind fun _ => Reads.pure p

theorem listPredictions_reads (modelId : Option String) :
    Reads Session.shown (Checked : Session env → Prop) (listPredictions env modelId)
      fun v => predictionsOf env v.ledger modelId :=
  Reads.get (g := fun (v w : Shown D H) =>
    (predictionIdsOf v.ledger modelId).mapM (predictionOf env w.ledger)) fun s _ =>
    Reads.mapM getPrediction_reads (predictionIdsOf s.ledger modelId)

theorem loadOutcome_reads (predictionId : String) (row : Option (OutcomeRow D H)) :
    Reads Session.shown (Checked : Session env → Prop) (loadOutcome env predictionId row)
      fun v => outcomeIn env v.ledger predictionId row := by
  cases row with
  | none => exact Reads.pure none
  | some row =>
    refine Reads.bind ?_ fun o => ?_
    · exact Reads.zoom (loadDocument_answer row predictionId) (fun _ _ => rfl) fun _ _ h => h
    · refine (getPrediction_reads o.predictionId).bind fun p => ?_
      exact (Reads.raising _).bind fun _ => Reads.pure (some o)

theorem getOutcome_reads (predictionId : String) :
    Reads Session.shown (Checked : Session env → Prop) (getOutcome env predictionId)
      fun v => outcomeOf env v.ledger predictionId :=
  Reads.get (g := fun (v w : Shown D H) =>
    outcomeIn env w.ledger predictionId (v.ledger.outcomes.get? predictionId))
    fun s _ => loadOutcome_reads predictionId (s.ledger.outcomes.get? predictionId)

theorem cohortOf_reads (e : Evaluation) (complete : Bool) :
    Reads Session.shown (Checked : Session env → Prop) (cohortOf env e complete)
      fun v => cohortIn env v.ledger e complete := by
  cases complete with
  | false => exact Reads.pure _
  | true => exact (listPredictions_reads (some e.modelId)).andThen

theorem requireEvaluationInputs_reads (e : Evaluation) (complete : Bool) :
    Reads Session.shown (Checked : Session env → Prop) (requireEvaluationInputs env e complete)
      fun v => inputsOf env v.ledger e complete := by
  refine (getModel_reads e.modelId).bind fun _ => ?_
  refine (Reads.raising _).bind fun _ => ?_
  refine (Reads.raising _).bind fun _ => ?_
  refine (Reads.mapM getPrediction_reads e.expectedPredictionIds).bind fun expected => ?_
  refine (Reads.raising _).bind fun _ => ?_
  refine (cohortOf_reads e complete).bind fun _ => ?_
  exact (Reads.mapM (fun id => (getOutcome_reads id).andThen) e.predictionIds).andThen

theorem getEvaluation_reads (evaluationId : String) :
    Reads Session.shown (Checked : Session env → Prop) (getEvaluation env evaluationId)
      fun v => evaluationOf env v.ledger evaluationId := by
  refine Reads.get (g := fun (v w : Shown D H) =>
    found ("learner evaluation not found: " ++ evaluationId)
      (v.ledger.evaluations.get? evaluationId) >>= fun row =>
      readDocument env.evaluationKind row evaluationId >>= fun e =>
      inputsOf env w.ledger e false >>= fun _ => pure e) fun s _ => ?_
  refine (Reads.raising _).bind fun row => ?_; refine Reads.bind ?_ fun e => ?_
  · exact Reads.zoom (loadDocument_answer row evaluationId) (fun _ _ => rfl) fun _ _ h => h
  · exact (requireEvaluationInputs_reads e false).bind fun _ => Reads.pure e

end Quantbot.L4.Learner
