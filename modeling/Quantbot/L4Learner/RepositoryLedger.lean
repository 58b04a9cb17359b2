import Quantbot.L4Learner.RepositoryReads

/-!
# The learner's ledger

A ledger is `Sound` when every row was written from a record that still reads back as itself. Rows
are only added (`Keeps`), and what reads of one ledger reads the same of a longer one
(`predictionOf_kept`, `inputsOf_kept`), so the rows that are there stay sound.
-/
namespace Quantbot.L4.Learner

open Core L1 L3.Registry
open L4.Intraday (minute FittedEstimator)
open Txn

variable {R Row D H F : Type} {env : Evidence F D H} [DecidableEq D] [DecidableEq H]

/-! ## One table -/

section Tables
variable [DecidableEq Row] {k : Kind R Row D H} {row : Row} {t t' : Table Row k.key}

omit [DecidableEq D] [DecidableEq Row] in
theorem insertRow_ok {u : PUnit} (h : insertRow k row t = .ok u t') :
    t.get? (k.key row) = none ∧ t' = t.insert row := by
  obtain ⟨table, t₁, hget, hbody⟩ := bind_ok.1 h
  obtain ⟨htable, ht₁⟩ := get_ok.1 hget
  obtain ⟨_, t₂, hrequire, hmodify⟩ := bind_ok.1 hbody
  obtain ⟨⟨hnone, _⟩, ht₂⟩ := require_ok.1 hrequire
  rw [modify_ok, ht₂, ht₁] at hmodify; rw [htable] at hnone
  exact ⟨hnone, hmodify⟩

omit [DecidableEq D] [DecidableEq Row] in
theorem insertRow_error {e : LedgerError} (h : insertRow k row t = .error e t') : t' = t := by
  rcases bind_error.1 h with hget | ⟨table, t₁, hget, hbody⟩
  · cases hget
  obtain ⟨_, ht₁⟩ := get_ok.1 hget
  rcases bind_error.1 hbody with hrequire | ⟨_, t₂, _, hmodify⟩
  · unfold require at hrequire; split at hrequire
    · cases hrequire
    · injection hrequire with _ hsame
      rw [← hsame, ht₁]
  · cases hmodify

/-- What a save that returned did to its table. -/
structure Saved (row : Row) (fresh : Bool) (t t' : Table Row k.key) : Prop where
  stored : row ∈ t'.rows
  kept : ∀ r ∈ t.rows, r ∈ t'.rows
  only : ∀ r ∈ t'.rows, r ∈ t.rows ∨ r = row
  again : fresh = false → t' = t
  first : fresh = true → t.get? (k.key row) = none

omit [DecidableEq D] in
theorem saveImmutable_ok {fresh : Bool} (h : saveImmutable k row t = .ok fresh t') :
    Saved row fresh t t' := by
  change saveAgainst k row (t.get? (k.key row)) t = .ok fresh t' at h
  cases hrow : t.get? (k.key row) with
  | none =>
    rw [hrow] at h; obtain ⟨_, t₁, hinsert, hpure⟩ := bind_ok.1 h
    obtain ⟨hfresh, ht'⟩ := pure_ok.1 hpure
    obtain ⟨_, hinserted⟩ := insertRow_ok hinsert; rw [ht'] at hinserted
    rw [hinserted, ← hfresh]
    exact ⟨(Table.mem_insert hrow).2 (.inr rfl), fun r => Table.mem_insert_of_mem,
      fun r => Table.mem_of_mem_insert, fun h => (by cases h), fun _ => hrow⟩
  | some stored =>
    rw [hrow] at h; unfold saveAgainst at h; dsimp only at h; split at h
    · rename_i hsame; obtain ⟨hfresh, ht'⟩ := pure_ok.1 h; rw [hsame] at hrow
      rw [← ht', ← hfresh]
      exact ⟨(Table.get?_some hrow).1, fun r hr => hr, fun r hr => .inl hr, fun _ => rfl,
        fun h => by cases h⟩
    · cases h

omit [DecidableEq D] in
theorem saveImmutable_error {e : LedgerError} (h : saveImmutable k row t = .error e t') :
    t' = t := by
  change saveAgainst k row (t.get? (k.key row)) t = .error e t' at h
  cases hrow : t.get? (k.key row) with
  | none =>
    rw [hrow] at h; rcases bind_error.1 h with hinsert | ⟨_, t₁, _, hpure⟩
    · exact insertRow_error hinsert
    · cases hpure
  | some stored =>
    rw [hrow] at h; unfold saveAgainst at h; dsimp only at h; split at h
    · cases h
    · injection h with _ hsame
      exact hsame.symm

omit [DecidableEq D] in
/-- **An exact repeat** changes nothing. -/
theorem saveImmutable_repeat (h : row ∈ t.rows) : saveImmutable k row t = .ok false t := by
  have hrow : t.get? (k.key row) = some row := Table.get?_key.2 h
  refine bind_ok.2 ⟨t, t, rfl, ?_⟩; rw [hrow]; unfold saveAgainst
  dsimp only; rw [if_pos rfl]; rfl

end Tables

/-! ## Longer ledgers -/

structure Keeps (l l' : Ledger D H) : Prop where
  datasets : ∀ r ∈ l.datasets.rows, r ∈ l'.datasets.rows
  models : ∀ r ∈ l.models.rows, r ∈ l'.models.rows
  predictions : ∀ r ∈ l.predictions.rows, r ∈ l'.predictions.rows
  outcomes : ∀ r ∈ l.outcomes.rows, r ∈ l'.outcomes.rows
  evaluations : ∀ r ∈ l.evaluations.rows, r ∈ l'.evaluations.rows

omit [DecidableEq D] [DecidableEq H] in
theorem Keeps.refl (l : Ledger D H) : Keeps l l :=
  ⟨fun _ h => h, fun _ h => h, fun _ h => h, fun _ h => h, fun _ h => h⟩

omit [DecidableEq D] [DecidableEq H] in
theorem Keeps.trans {l l' l'' : Ledger D H} (h : Keeps l l') (h' : Keeps l' l'') : Keeps l l'' :=
  ⟨fun r hr => h'.datasets r (h.datasets r hr), fun r hr => h'.models r (h.models r hr),
    fun r hr => h'.predictions r (h.predictions r hr),
    fun r hr => h'.outcomes r (h.outcomes r hr),
    fun r hr => h'.evaluations r (h.evaluations r hr)⟩

theorem found_ok {Row : Type} {text : String} {o : Option Row} {row : Row} :
    found text o = .ok row ↔ o = some row := by
  unfold found; cases o <;> simp

section Kept
variable {l l' : Ledger D H} (h : Keeps l l')
include h

theorem datasetOf_kept {datasetId : String} {d : Dataset F}
    (hd : datasetOf env l datasetId = .ok d) : datasetOf env l' datasetId = .ok d := by
  obtain ⟨row, hrow, hread⟩ := except_bind_ok.1 hd
  refine except_bind_ok.2 ⟨row, ?_, hread⟩
  exact found_ok.2 (Table.get?_kept h.datasets (found_ok.1 hrow))

theorem modelOf_kept {modelId : String} {m : ModelVersion F}
    (hm : modelOf env l modelId = .ok m) : modelOf env l' modelId = .ok m := by
  obtain ⟨row, hrow, hm⟩ := except_bind_ok.1 hm
  obtain ⟨m', hread, hm⟩ := except_bind_ok.1 hm
  obtain ⟨d, hd, hm⟩ := except_bind_ok.1 hm
  refine except_bind_ok.2 ⟨row, found_ok.2 (Table.get?_kept h.models (found_ok.1 hrow)), ?_⟩
  exact except_bind_ok.2 ⟨m', hread, except_bind_ok.2 ⟨d, datasetOf_kept h hd, hm⟩⟩

variable {predictionId : String}

theorem predictionOf_kept {p : Prediction F} (hp : predictionOf env l predictionId = .ok p) :
    predictionOf env l' predictionId = .ok p := by
  obtain ⟨row, hrow, hp⟩ := except_bind_ok.1 hp
  obtain ⟨p', hread, hp⟩ := except_bind_ok.1 hp
  obtain ⟨m, hm, hp⟩ := except_bind_ok.1 hp
  obtain ⟨d, hd, hp⟩ := except_bind_ok.1 hp
  refine except_bind_ok.2 ⟨row, found_ok.2 (Table.get?_kept h.predictions (found_ok.1 hrow)), ?_⟩
  refine except_bind_ok.2 ⟨p', hread, except_bind_ok.2 ⟨m, modelOf_kept h hm, ?_⟩⟩
  exact except_bind_ok.2 ⟨d, datasetOf_kept h hd, hp⟩

theorem outcomeOf_kept {o : Outcome F} (ho : outcomeOf env l predictionId = .ok (some o)) :
    outcomeOf env l' predictionId = .ok (some o) := by
  unfold outcomeOf at *
  cases hrow : l.outcomes.get? predictionId with
  | none =>
    rw [hrow] at ho; cases ho
  | some row =>
    rw [Table.get?_kept h.outcomes hrow]; rw [hrow] at ho
    obtain ⟨o', hread, ho⟩ := except_bind_ok.1 ho
    obtain ⟨p, hp, ho⟩ := except_bind_ok.1 ho
    exact except_bind_ok.2 ⟨o', hread, except_bind_ok.2 ⟨p, predictionOf_kept h hp, ho⟩⟩

theorem scoredIn_kept {e : Evaluation} {expected : List (Prediction F)} {row : ScoredRow F}
    (hs : scoredIn env l e expected predictionId = .ok row) :
    scoredIn env l' e expected predictionId = .ok row := by
  obtain ⟨o, ho, hs⟩ := except_bind_ok.1 hs
  cases o with
  | none =>
    -- without an outcome there is no scored row
    obtain ⟨_, _, hs⟩ := except_bind_ok.1 hs; cases hs
  | some o => exact except_bind_ok.2 ⟨some o, outcomeOf_kept h ho, hs⟩

omit h [DecidableEq D] [DecidableEq H] in
theorem mapM_kept {α β : Type} {f g : α → Except LedgerError β} {as : List α} {bs : List β}
    (hfg : ∀ a b, f a = .ok b → g a = .ok b) (hf : as.mapM f = .ok bs) : as.mapM g = .ok bs :=
  mapM_ok_iff.2 ((mapM_ok_iff.1 hf).imp hfg)

/-- **An evaluation** keeps its inputs; whether they are all of a cohort is asked only once. -/
theorem inputsOf_kept {e : Evaluation} {complete : Bool} {u : PUnit}
    (he : inputsOf env l e complete = .ok u) : inputsOf env l' e false = .ok ⟨⟩ := by
  obtain ⟨m, hm, he⟩ := except_bind_ok.1 he
  obtain ⟨_, hvalid, he⟩ := except_bind_ok.1 he
  obtain ⟨_, hobject, he⟩ := except_bind_ok.1 he
  obtain ⟨expected, hexpected, he⟩ := except_bind_ok.1 he
  obtain ⟨_, hmembers, he⟩ := except_bind_ok.1 he
  obtain ⟨_, _, he⟩ := except_bind_ok.1 he
  obtain ⟨scored, hscored, hmetrics⟩ := except_bind_ok.1 he
  refine except_bind_ok.2 ⟨m, modelOf_kept h hm, ?_⟩
  refine except_bind_ok.2 ⟨⟨⟩, hvalid, except_bind_ok.2 ⟨⟨⟩, hobject, ?_⟩⟩
  refine except_bind_ok.2 ⟨expected, mapM_kept (fun _ _ => predictionOf_kept h) hexpected, ?_⟩
  refine except_bind_ok.2 ⟨⟨⟩, hmembers, except_bind_ok.2 ⟨⟨⟩, rfl, ?_⟩⟩
  exact except_bind_ok.2 ⟨scored, mapM_kept (fun _ _ => scoredIn_kept h) hscored, hmetrics⟩

end Kept

/-- The parent of a successor, read of the tables. -/
def parentIn (env : Evidence F D H) (l : Ledger D H) (m : ModelVersion F) (d : Dataset F) :
    Option String → Except LedgerError PUnit
  | none => .ok ⟨⟩
  | some parentId => do
    let parent ← (modelOf env l parentId).mapError (parentMissing parentId)
    ensure (m.version = parent.version + 1)
      (.conflict "successor model version does not immediately follow parent")
    let parentDataset ← datasetOf env l parent.datasetId
    ensure (parentDataset.sourceId = d.sourceId ∧ parentDataset.universeId = d.universeId)
      (.conflict "successor model lineage changed source or universe")

theorem mapError_ok {α ε : Type} {x : Except ε α} {f : ε → ε} {a : α} :
    x.mapError f = .ok a ↔ x = .ok a := by
  cases x with
  | ok b => exact Iff.rfl
  | error e => exact ⟨fun h => (nomatch h), fun h => (nomatch h)⟩

variable {l : Ledger D H}

theorem parentIn_kept {l' : Ledger D H} (h : Keeps l l') {m : ModelVersion F} {d : Dataset F}
    {parentId : Option String} {u : PUnit} (hp : parentIn env l m d parentId = .ok u) :
    parentIn env l' m d parentId = .ok ⟨⟩ := by
  cases parentId with
  | none => rfl
  | some parentId =>
    obtain ⟨parent, hparent, hp⟩ := except_bind_ok.1 hp
    obtain ⟨_, hversion, hp⟩ := except_bind_ok.1 hp
    obtain ⟨pd, hpd, hp⟩ := except_bind_ok.1 hp
    refine except_bind_ok.2 ⟨parent, mapError_ok.2 (modelOf_kept h (mapError_ok.1 hparent)), ?_⟩
    refine except_bind_ok.2 ⟨⟨⟩, hversion, except_bind_ok.2 ⟨pd, datasetOf_kept h hpd, ?_⟩⟩
    exact hp

theorem requireParent_reads (m : ModelVersion F) (d : Dataset F) (parentId : Option String) :
    Reads Session.shown (Checked : Session env → Prop) (requireParent env m d parentId)
      fun v => parentIn env v.ledger m d parentId := by
  cases parentId with
  | none => exact Reads.pure _
  | some parentId =>
    refine ((getModel_reads parentId).mapError _).bind fun parent => ?_
    refine (Reads.raising _).bind fun _ => ?_
    exact (getDataset_checked parent.datasetId).andThen

/-! ## Soundness -/

section Written
variable (env) (l : Ledger D H)

def DatasetWritten (r : DatasetRow D H) : Prop :=
  ∃ d, (Standing env.fl env.artifactId).1 d ∧ r = env.datasetPayload d

def ModelWritten (r : ModelRow D H) : Prop :=
  ∃ m, (Standing env.fl env.artifactId).2.1 m ∧ r = env.modelPayload m ∧
    ∃ d, datasetOf env l m.datasetId = .ok d ∧ requireModelMatchesDataset env m d true = .ok ⟨⟩ ∧
      parentIn env l m d m.parentModelId = .ok ⟨⟩

def PredictionWritten (r : PredictionRow D H) : Prop :=
  ∃ p, (Standing env.fl env.artifactId).2.2 p ∧ r = env.predictionPayload p r.recordedAt ∧
    ∃ m d, modelOf env l p.modelId = .ok m ∧ datasetOf env l m.datasetId = .ok d ∧
      requirePredictionMatchesModel env p m d r.recordedAt = .ok ⟨⟩

def OutcomeWritten (r : OutcomeRow D H) : Prop :=
  ∃ o, Outcome.Checks env.fl o ∧ r = env.outcomePayload o ∧
    ∃ p, predictionOf env l o.predictionId = .ok p ∧
      requireOutcomeMatchesPrediction env o p = .ok ⟨⟩

def EvaluationWritten (r : EvaluationRow D H) : Prop :=
  ∃ e, Evaluation.Checks e ∧ r = env.evaluationPayload e ∧ inputsOf env l e false = .ok ⟨⟩

/-- Every row was written from a record that passed its checks. -/
structure Sound : Prop where
  datasets : ∀ r ∈ l.datasets.rows, DatasetWritten env r
  models : ∀ r ∈ l.models.rows, ModelWritten env l r
  predictions : ∀ r ∈ l.predictions.rows, PredictionWritten env l r
  outcomes : ∀ r ∈ l.outcomes.rows, OutcomeWritten env l r
  evaluations : ∀ r ∈ l.evaluations.rows, EvaluationWritten env l r

end Written

theorem Sound.empty : Sound env {} :=
  ⟨nofun, nofun,
    nofun, nofun,
    nofun⟩

section Grow
variable {l l' : Ledger D H} (h : Keeps l l')
include h

theorem ModelWritten.kept {r : ModelRow D H} (hr : ModelWritten env l r) :
    ModelWritten env l' r := by
  obtain ⟨m, hm, hrow, d, hd, hmatch, hparent⟩ := hr
  exact ⟨m, hm, hrow, d, datasetOf_kept h hd, hmatch, parentIn_kept h hparent⟩

theorem PredictionWritten.kept {r : PredictionRow D H} (hr : PredictionWritten env l r) :
    PredictionWritten env l' r := by
  obtain ⟨p, hp, hrow, m, d, hm, hd, hmatch⟩ := hr
  exact ⟨p, hp, hrow, m, d, modelOf_kept h hm, datasetOf_kept h hd, hmatch⟩

theorem OutcomeWritten.kept {r : OutcomeRow D H} (hr : OutcomeWritten env l r) :
    OutcomeWritten env l' r := by
  obtain ⟨o, ho, hrow, p, hp, hmatch⟩ := hr
  exact ⟨o, ho, hrow, p, predictionOf_kept h hp, hmatch⟩

theorem EvaluationWritten.kept {r : EvaluationRow D H} (hr : EvaluationWritten env l r) :
    EvaluationWritten env l' r := by
  obtain ⟨e, he, hrow, hinputs⟩ := hr
  exact ⟨e, he, hrow, inputsOf_kept h hinputs⟩

/-- **A ledger that grows** by rows that were written soundly stays sound. -/
theorem Sound.grow (hs : Sound env l)
    (hdatasets : ∀ r ∈ l'.datasets.rows, r ∈ l.datasets.rows ∨ DatasetWritten env r)
    (hmodels : ∀ r ∈ l'.models.rows, r ∈ l.models.rows ∨ ModelWritten env l r)
    (hpredictions : ∀ r ∈ l'.predictions.rows, r ∈ l.predictions.rows ∨ PredictionWritten env l r)
    (houtcomes : ∀ r ∈ l'.outcomes.rows, r ∈ l.outcomes.rows ∨ OutcomeWritten env l r)
    (hevaluations : ∀ r ∈ l'.evaluations.rows,
      r ∈ l.evaluations.rows ∨ EvaluationWritten env l r) : Sound env l' := by
  refine ⟨fun r hr => ?_, fun r hr => ?_, fun r hr => ?_, fun r hr => ?_, fun r hr => ?_⟩
  · exact (hdatasets r hr).elim (hs.datasets r) id
  · exact ((hmodels r hr).elim (hs.models r) id).kept h
  · exact ((hpredictions r hr).elim (hs.predictions r) id).kept h
  · exact ((houtcomes r hr).elim (hs.outcomes r) id).kept h
  · exact ((hevaluations r hr).elim (hs.evaluations r) id).kept h

end Grow

/-! ### What is stored reads back -/

omit [DecidableEq D] [DecidableEq H] in
theorem Codec.print_inj {Valid : R → Prop} (c : Codec Valid D) {r r' : R} (hr : Valid r)
    (hr' : Valid r') (h : c.print r = c.print r') : r = r' := by
  have hparse := c.parse_print r hr; rw [h, c.parse_print r' hr'] at hparse
  exact (Option.some.inj hparse).symm

section Reload
variable {l : Ledger D H}

variable {d : Dataset F}

theorem datasetOf_stored (hd : (Standing env.fl env.artifactId).1 d)
    (h : env.datasetPayload d ∈ l.datasets.rows) : datasetOf env l (env.datasetId d) = .ok d := by
  refine except_bind_ok.2 ⟨env.datasetPayload d, found_ok.2 (Table.get?_key.2 h), ?_⟩
  exact readDocument_of rfl rfl (env.datasets.parse_print d hd) rfl

variable {m : ModelVersion F} {u : PUnit}

omit [DecidableEq D] [DecidableEq H] in
theorem requireModelMatchesDataset_fit (h : requireModelMatchesDataset env m d true = .ok u) :
    requireModelMatchesDataset env m d false = .ok ⟨⟩ := by
  unfold requireModelMatchesDataset at *
  obtain ⟨_, h₁, h⟩ := except_bind_ok.1 h
  obtain ⟨_, h₂, h⟩ := except_bind_ok.1 h
  obtain ⟨_, h₃, h⟩ := except_bind_ok.1 h
  obtain ⟨_, h₄, h⟩ := except_bind_ok.1 h
  obtain ⟨_, h₅, h⟩ := except_bind_ok.1 h
  obtain ⟨_, h₆, _⟩ := except_bind_ok.1 h
  refine except_bind_ok.2 ⟨_, h₁, except_bind_ok.2 ⟨_, h₂, except_bind_ok.2 ⟨_, h₃, ?_⟩⟩⟩
  exact except_bind_ok.2 ⟨_, h₄, except_bind_ok.2 ⟨_, h₅, except_bind_ok.2 ⟨_, h₆, rfl⟩⟩⟩

theorem modelOf_stored (hm : (Standing env.fl env.artifactId).2.1 m)
    (h : env.modelPayload m ∈ l.models.rows) (hd : datasetOf env l m.datasetId = .ok d)
    (hmatch : requireModelMatchesDataset env m d true = .ok u) :
    modelOf env l m.modelId = .ok m := by
  refine except_bind_ok.2 ⟨env.modelPayload m, found_ok.2 (Table.get?_key.2 h), ?_⟩
  refine except_bind_ok.2 ⟨m, readDocument_of rfl rfl (env.models.parse_print m hm) rfl, ?_⟩
  refine except_bind_ok.2 ⟨d, hd, ?_⟩
  exact except_bind_ok.2 ⟨⟨⟩, requireModelMatchesDataset_fit hmatch, rfl⟩

theorem predictionOf_stored {p : Prediction F} {recordedAt : Int}
    (hp : (Standing env.fl env.artifactId).2.2 p)
    (h : env.predictionPayload p recordedAt ∈ l.predictions.rows)
    (hm : modelOf env l p.modelId = .ok m) (hd : datasetOf env l m.datasetId = .ok d)
    (hmatch : requirePredictionMatchesModel env p m d recordedAt = .ok u) :
    predictionOf env l p.predictionId = .ok p := by
  refine except_bind_ok.2 ⟨env.predictionPayload p recordedAt,
    found_ok.2 (Table.get?_key.2 h), ?_⟩
  refine except_bind_ok.2 ⟨p, readDocument_of rfl rfl (env.predictions.parse_print p hp) rfl, ?_⟩
  refine except_bind_ok.2 ⟨m, hm, except_bind_ok.2 ⟨d, hd, ?_⟩⟩
  exact except_bind_ok.2 ⟨u, hmatch, rfl⟩

theorem outcomeOf_stored {o : Outcome F} (ho : o.Checks env.fl)
    (h : env.outcomePayload o ∈ l.outcomes.rows) {p : Prediction F}
    (hp : predictionOf env l o.predictionId = .ok p)
    (hmatch : requireOutcomeMatchesPrediction env o p = .ok u) :
    outcomeOf env l o.predictionId = .ok (some o) := by
  have hrow : l.outcomes.get? o.predictionId = some (env.outcomePayload o) := Table.get?_key.2 h
  unfold outcomeOf; rw [hrow]
  refine except_bind_ok.2 ⟨o, readDocument_of rfl rfl (env.outcomes.parse_print o ho) rfl, ?_⟩
  exact except_bind_ok.2 ⟨p, hp, except_bind_ok.2 ⟨u, hmatch, rfl⟩⟩

theorem evaluationOf_stored {e : Evaluation} (he : e.Checks)
    (h : env.evaluationPayload e ∈ l.evaluations.rows) (hinputs : inputsOf env l e false = .ok u) :
    evaluationOf env l e.evaluationId = .ok e := by
  refine except_bind_ok.2 ⟨env.evaluationPayload e, found_ok.2 (Table.get?_key.2 h), ?_⟩
  refine except_bind_ok.2 ⟨e, readDocument_of rfl rfl (env.evaluations.parse_print e he) rfl, ?_⟩
  exact except_bind_ok.2 ⟨u, hinputs, rfl⟩

end Reload

/-! ### Cohorts -/

/-- The expected predictions are those stored of the model and the class. -/
def Cohort (l : Ledger D H) (e : Evaluation) : Prop :=
  ∀ id, id ∈ e.expectedPredictionIds ↔ ∃ r ∈ l.predictions.rows, r.predictionId = id ∧
    r.modelId = e.modelId ∧ r.evaluationClass = e.evaluationClass

theorem Sound.prediction (hs : Sound env l) {r : PredictionRow D H} (hr : r ∈ l.predictions.rows) :
    ∃ p, predictionOf env l r.predictionId = .ok p ∧ r = env.predictionPayload p r.recordedAt := by
  obtain ⟨p, hp, hrow, m, d, hm, hd, hmatch⟩ := hs.predictions r hr
  have hid : p.predictionId = r.predictionId := (congrArg (·.predictionId) hrow).symm
  have hread := predictionOf_stored hp (hrow ▸ hr) hm hd hmatch
  rw [hid] at hread; exact ⟨p, hread, hrow⟩

omit [DecidableEq D] [DecidableEq H] in
theorem mapM_total {α β : Type} {f : α → Except LedgerError β} {as : List α}
    (h : ∀ a ∈ as, ∃ b, f a = .ok b) :
    ∃ bs, as.mapM f = .ok bs ∧ ∀ a ∈ as, ∃ b ∈ bs, f a = .ok b := by
  obtain ⟨bs, hbs⟩ := except_mapM_total h
  exact ⟨bs, hbs, fun a ha => mapM_ok_of_mem hbs ha⟩

omit [DecidableEq D] [DecidableEq H] in
theorem mapM_ok_each {α β : Type} {f : α → Except LedgerError β} {as : List α} {bs : List β}
    (h : as.mapM f = .ok bs) : ∀ a ∈ as, ∃ b, f a = .ok b := fun _ ha =>
  let ⟨b, _, hb⟩ := mapM_ok_of_mem h ha
  ⟨b, hb⟩

omit [DecidableEq D] [DecidableEq H] in
theorem mem_predictionIdsOf {l : Ledger D H} {modelId id : String} :
    id ∈ predictionIdsOf l (some modelId) ↔
      ∃ r ∈ l.predictions.rows, r.predictionId = id ∧ r.modelId = modelId := by
  unfold predictionIdsOf; rw [List.mem_map]; refine exists_congr fun r => ?_
  rw [List.mem_insertionSort, List.mem_filter]
  simp only [reduceCtorEq, false_or, Option.some.injEq, decide_eq_true_eq]
  constructor
  · intro ⟨⟨hr, hmodel⟩, hid⟩; exact ⟨hr, hid, hmodel.symm⟩
  · intro ⟨hr, hid, hmodel⟩; exact ⟨⟨hr, hmodel.symm⟩, hid⟩

/-- **The check of a cohort** is of the stored predictions. -/
theorem Sound.cohort (hs : Sound env l) (e : Evaluation) :
    (∃ u, cohortIn env l e true = .ok u) ↔ Cohort l e := by
  have htotal : ∀ id ∈ predictionIdsOf l (some e.modelId), ∃ p, predictionOf env l id = .ok p := by
    intro id hid; obtain ⟨r, hr, rfl, _⟩ := mem_predictionIdsOf.1 hid
    obtain ⟨p, hp, _⟩ := hs.prediction hr; exact ⟨p, hp⟩
  obtain ⟨stored, hstored, hall⟩ := mapM_total htotal
  have hids : ∀ id, id ∈ (stored.filter fun p => p.evaluationClass = e.evaluationClass).map
      (·.predictionId) ↔ ∃ r ∈ l.predictions.rows, r.predictionId = id ∧
        r.modelId = e.modelId ∧ r.evaluationClass = e.evaluationClass := by
    intro id; rw [List.mem_map]; constructor
    · rintro ⟨p, hp, hid⟩; obtain ⟨hmem, hclass⟩ := List.mem_filter.1 hp
      obtain ⟨id', hid', hread⟩ := mapM_ok_mem hstored p hmem
      obtain ⟨r, hr, rfl, hmodel⟩ := mem_predictionIdsOf.1 hid'
      obtain ⟨p', hp', hrow⟩ := hs.prediction hr
      obtain rfl := Except.ok.inj (hp'.symm.trans hread)
      refine ⟨r, hr, ?_, hmodel, ?_⟩
      · rw [hrow, ← hid]; rfl
      · rw [hrow]; exact of_decide_eq_true hclass
    · rintro ⟨r, hr, hid, hmodel, hclass⟩
      obtain ⟨p, hmem, hread⟩ := hall id (mem_predictionIdsOf.2 ⟨r, hr, hid, hmodel⟩)
      obtain ⟨p', hp', hrow⟩ := hs.prediction hr; rw [hid] at hp'
      obtain rfl := Except.ok.inj (hp'.symm.trans hread)
      refine ⟨p', List.mem_filter.2 ⟨hmem, ?_⟩, ?_⟩
      · rw [hrow] at hclass; exact decide_eq_true hclass
      · rw [hrow] at hid; exact hid
  have hcheck : (∃ u, cohortIn env l e true = .ok u) ↔ ∃ u, requireCohort e stored = .ok u := by
    constructor
    · rintro ⟨u, h⟩; obtain ⟨ps, hps, h⟩ := except_bind_ok.1 h
      obtain rfl := Except.ok.inj (hps.symm.trans hstored); exact ⟨u, h⟩
    · rintro ⟨u, h⟩; exact ⟨u, except_bind_ok.2 ⟨stored, hstored, h⟩⟩
  rw [hcheck]; unfold requireCohort; simp only [ensure_ok, exists_const]
  constructor
  · rintro ⟨hsub, hsup⟩ id; rw [← hids id]
    exact ⟨fun h => hsub h, fun h => hsup h⟩
  · intro h
    exact ⟨fun id hid => (hids id).2 ((h id).1 hid), fun id hid => (h id).2 ((hids id).1 hid)⟩

end Quantbot.L4.Learner
