import Quantbot.L4PaperCore.LearningSelect

/-!
# No look-ahead in the walk-forward procedure

Two runs of `run_procedure` over two episode sets. A fold plan names its training and validation
episodes; an episode is eligible in a fold where its outcome and its observation were available
at the fold's cutoff and it ended the embargo before the fold's validation starts.

* `runFold_training`: a fold of an accepted run trains on eligible episodes.
* `runFold_agree`: folds that train on the same episodes by the same cutoff fit the same model
  with the same weights, whatever they are scored on; the model names its run.
* `procedure_no_lookahead`: so do two accepted runs whose sets agree on what is eligible, and
  the rows of a fold come of what was visible at its cutoff.
-/
namespace Quantbot.L4.Procedure

open Core Txn L2 Learning Intraday

variable {F : Type} {N : Numerics F} {modelId : ModelArtifact F → String}
  {parent : ModelArtifact F} {policy : LearningPolicy} {calendar : LearningCalendar}
  {cutoff cutoff' : Int} {runId runId' : String}

/-! ## Plans -/

/-- A fold by the episodes it names in a set. -/
structure FoldPlan (ι F : Type) where
  session : Int
  cutoff : Int
  training : List ι
  validation : List ι
  historicalModelIds : List String
  historicalModels : List (ModelArtifact F)
  historicalAvailableAt : List (Option Int)
  historicalReceiptIds : List (Option String)
  historicalAcknowledgementIds : List (Option String)
  historicalAcknowledgementAvailableAt : List (Option Int)

variable {ι : Type}

def FoldPlan.fold (p : FoldPlan ι F) (episodes : ι → LearningEpisode F) : LearningFold F where
  session := p.session
  cutoff := p.cutoff
  training := p.training.map episodes
  validation := p.validation.map episodes
  historicalModelIds := p.historicalModelIds
  historicalModels := p.historicalModels
  historicalAvailableAt := p.historicalAvailableAt
  historicalReceiptIds := p.historicalReceiptIds
  historicalAcknowledgementIds := p.historicalAcknowledgementIds
  historicalAcknowledgementAvailableAt := p.historicalAcknowledgementAvailableAt

/-- What a fold may learn from. -/
structure Eligible (fold : LearningFold F) (e : LearningEpisode F) : Prop where
  outcome : ∃ at_ ∈ e.outcome.availableAt, at_ ≤ fold.cutoff
  observation : e.observation.availableAt ≤ fold.cutoff
  ended : ∃ finish ∈ e.outcome.sourceEnd, finish ≤ firstStart fold.validation - embargo

theorem refuse_ok {c : Prop} [Decidable c] {text : String} {u : Unit}
    (h : refuse c text = .ok u) : ¬ c := by
  unfold refuse at h; split at h
  · cases h
  · assumption

variable {fold : LearningFold F}

theorem eligible_of_causal {e : LearningEpisode F} (h : ¬ NoncausalTraining fold e) :
    Eligible fold e := by
  unfold NoncausalTraining Trip.LateAt at h
  push Not at h
  obtain ⟨_, ⟨at_, hat, hle⟩, hobserved, hend, hembargo⟩ := h
  obtain ⟨finish, hfinish⟩ := Option.ne_none_iff_exists'.1 hend
  exact ⟨⟨at_, hat, hle⟩, hobserved, finish, hfinish, hembargo finish hfinish⟩

/-! ## One fold -/

theorem fitCandidate_run {outcomes : List (LearningEpisode F)} {weights : Option (List F)}
    {artifact : ModelArtifact F}
    (h : fitCandidate N modelId outcomes parent policy runId weights = .ok artifact) :
    artifact.learningReceiptId = runId ∧
      fitCandidate N modelId outcomes parent policy runId' weights =
        .ok { artifact with learningReceiptId := runId' } := by
  obtain ⟨_, hempty, h⟩ := except_bind_ok.1 h
  obtain ⟨_, hparent, h⟩ := except_bind_ok.1 h
  obtain ⟨_, hcausal, h⟩ := except_bind_ok.1 h
  obtain ⟨targets, htargets, h⟩ := except_bind_ok.1 h
  obtain ⟨estimator, hestimator, h⟩ := except_bind_ok.1 h; cases h
  refine ⟨rfl, ?_⟩
  refine except_bind_ok.2 ⟨_, hempty, except_bind_ok.2 ⟨_, hparent, ?_⟩⟩
  refine except_bind_ok.2 ⟨_, hcausal, except_bind_ok.2 ⟨targets, htargets, ?_⟩⟩
  exact except_bind_ok.2 ⟨estimator, hestimator, rfl⟩

variable [DecidableEq F]

variable {result : FoldResult F}

theorem runFold_ok (h : runFold N modelId parent policy calendar cutoff runId fold = .ok result) :
    ¬ NoncausalFold fold ∧ rawWeights N fold.training calendar fold.cutoff = .ok result.rawWeights ∧
      fitCandidate N modelId fold.training parent policy runId (some result.rawWeights) =
        .ok result.artifact := by
  obtain ⟨_, _, h⟩ := except_bind_ok.1 h
  obtain ⟨_, hcausal, h⟩ := except_bind_ok.1 h
  obtain ⟨weights, hweights, h⟩ := except_bind_ok.1 h
  obtain ⟨artifact, hartifact, h⟩ := except_bind_ok.1 h
  obtain ⟨⟨scores, scoring⟩, _, h⟩ := except_bind_ok.1 h; cases h
  exact ⟨refuse_ok hcausal, hweights, hartifact⟩

/-- **An accepted fold trains on eligible episodes.** -/
theorem runFold_training
    (h : runFold N modelId parent policy calendar cutoff runId fold = .ok result) :
    ∀ e ∈ fold.training, Eligible fold e := by
  intro e he; obtain ⟨hcausal, _⟩ := runFold_ok h
  refine eligible_of_causal fun hnot => hcausal ?_
  exact .inr (.inr (.inr (.inr ⟨e, he, hnot⟩)))

/-- **The fit and the weights of a fold come of its training episodes and its cutoff.** -/
theorem runFold_agree {fold' : LearningFold F} {result' : FoldResult F}
    (h : runFold N modelId parent policy calendar cutoff runId fold = .ok result)
    (h' : runFold N modelId parent policy calendar cutoff' runId' fold' = .ok result')
    (hcutoff : fold'.cutoff = fold.cutoff) (htraining : fold'.training = fold.training) :
    result'.rawWeights = result.rawWeights ∧ result.artifact.learningReceiptId = runId ∧
      result'.artifact = { result.artifact with learningReceiptId := runId' } := by
  obtain ⟨_, hweights, hfit⟩ := runFold_ok h
  obtain ⟨_, hweights', hfit'⟩ := runFold_ok h'
  rw [hcutoff, htraining, hweights] at hweights'
  have hsame : result'.rawWeights = result.rawWeights := (Except.ok.inj hweights').symm
  rw [htraining, hsame] at hfit'
  obtain ⟨hrun, hrefit⟩ : _ ∧ fitCandidate N modelId fold.training parent policy runId'
      (some result.rawWeights) = .ok { result.artifact with learningReceiptId := runId' } :=
    fitCandidate_run hfit
  rw [hrefit] at hfit'; exact ⟨hsame, hrun, (Except.ok.inj hfit').symm⟩

/-! ## The run -/

omit [DecidableEq F] in
theorem mapM_ok_getElem? {α β ε : Type} {f : α → Except ε β} {as : List α} {bs : List β}
    (h : as.mapM f = .ok bs) {i : ℕ} {a : α} (ha : as[i]? = some a) :
    ∃ b, bs[i]? = some b ∧ f a = .ok b := by
  replace h := mapM_ok_iff.1 h
  induction h generalizing i with
  | nil => cases ha
  | cons hb _ ih =>
    cases i with
    | zero =>
      cases ha; exact ⟨_, rfl, hb⟩
    | succ i => exact ih ha

variable {final : List (LearningEpisode F)} {result : ProcedureResult F}

theorem runProcedure_folds {folds : List (LearningFold F)}
    (h : runProcedure N modelId folds final parent policy calendar cutoff runId = .ok result) :
    folds.mapM (runFold N modelId parent policy calendar cutoff runId) = .ok result.folds := by
  obtain ⟨_, _, h⟩ := except_bind_ok.1 h; obtain ⟨_, _, h⟩ := except_bind_ok.1 h
  obtain ⟨results, hresults, h⟩ := except_bind_ok.1 h
  obtain ⟨metrics, _, h⟩ := except_bind_ok.1 h; dsimp only at h; split at h
  · obtain ⟨weights, _, h⟩ := except_bind_ok.1 h
    obtain ⟨candidate, _, h⟩ := except_bind_ok.1 h; cases h; exact hresults
  · obtain ⟨weights, _, h⟩ := except_bind_ok.1 h; cases h; exact hresults

theorem runProcedure_plan {plan : List (FoldPlan ι F)} {episodes : ι → LearningEpisode F}
    {i : ℕ} {p : FoldPlan ι F}
    (h : runProcedure N modelId (plan.map (·.fold episodes)) final parent policy calendar cutoff
      runId = .ok result) (hp : plan[i]? = some p) : ∃ r, result.folds[i]? = some r ∧
      runFold N modelId parent policy calendar cutoff runId (p.fold episodes) = .ok r := by
  refine mapM_ok_getElem? (runProcedure_folds h) ?_; rw [List.getElem?_map, hp]
  rfl

/-! ## Two runs -/

/-- Sets that differ, at most, in what a fold may not learn from. -/
def AgreeAt (fold : LearningFold F) (episodes episodes' : ι → LearningEpisode F) : Prop :=
  ∀ id, Eligible fold (episodes id) → episodes' id = episodes id

/-- **No look-ahead.** Of two accepted runs whose plans give a fold one cutoff and one list of
training episodes, and whose episodes agree where that fold may learn, both fit it to the same
model with the same weights; the run's own name apart. The rest of the plans, what is scored, the
final episodes, the cutoff of the procedure and the run may differ. And the rows a daily policy
trains a fold on come of the revisions visible when it opens, and end the embargo before it. -/
theorem procedure_no_lookahead {F ι : Type} [DecidableEq F] (N : Numerics F)
    (modelId : ModelArtifact F → String) (parent : ModelArtifact F) (policy : LearningPolicy)
    (calendar : LearningCalendar) :
    (∀ (episodes episodes' : ι → LearningEpisode F) (plan plan' : List (FoldPlan ι F))
        (final final' : List (LearningEpisode F)) (cutoff cutoff' : Int) (runId runId' : String)
        (result result' : ProcedureResult F),
      runProcedure N modelId (plan.map (·.fold episodes)) final parent policy calendar cutoff
        runId = .ok result →
      runProcedure N modelId (plan'.map (·.fold episodes')) final' parent policy calendar cutoff'
        runId' = .ok result' →
      ∀ (i : ℕ) (p p' : FoldPlan ι F), plan[i]? = some p → plan'[i]? = some p' →
        p'.cutoff = p.cutoff → p'.training = p.training →
        AgreeAt (p.fold episodes) episodes episodes' →
        (∀ id ∈ p.training, Eligible (p.fold episodes) (episodes id)) ∧
        ∃ r r', result.folds[i]? = some r ∧ result'.folds[i]? = some r' ∧
          r'.rawWeights = r.rawWeights ∧ r.artifact.learningReceiptId = runId ∧
          r'.artifact = { r.artifact with learningReceiptId := runId' }) ∧
    (policy.procedureVersion ≠ none →
      ∀ (h : Holds) (revisions revisions' : List Revision) (validation validation' : List OutcomeRow)
        (day : Int), DistinctIds revisions → DistinctIds revisions' →
      (∀ r : Revision, r.Visible (((calendar.session? day).map (·.openAt)).getD 0) →
        (r ∈ revisions ↔ r ∈ revisions')) →
      earliestStart (validation'.filter fun r => r.session = day) =
        earliestStart (validation.filter fun r => r.session = day) →
      (foldOf calendar validation' (selectAt h policy revisions') day).1.training =
        (foldOf calendar validation (selectAt h policy revisions) day).1.training ∧
      ∀ o ∈ (foldOf calendar validation (selectAt h policy revisions) day).1.training,
        o.session < day ∧ o.availableAt ≤ ((calendar.session? day).map (·.openAt)).getD 0 ∧
        o.finish ≤ earliestStart (validation.filter fun r => r.session = day) - embargo) := by
  refine ⟨?_, ?_⟩
  · intro episodes episodes' plan plan' final final' cutoff cutoff' runId runId' result result'
      hrun hrun' i p p' hp hp' hcutoff htraining hagree
    obtain ⟨r, hr, hfold⟩ := runProcedure_plan hrun hp
    obtain ⟨r', hr', hfold'⟩ := runProcedure_plan hrun' hp'
    have heligible : ∀ id ∈ p.training, Eligible (p.fold episodes) (episodes id) :=
      fun id hid => runFold_training hfold _ (List.mem_map_of_mem hid)
    -- the episodes named for training are the same in both sets, as they are eligible
    have hsame : (p'.fold episodes').training = (p.fold episodes).training := by
      show p'.training.map episodes' = p.training.map episodes
      rw [htraining]
      exact List.map_congr_left fun id hid => hagree id (heligible id hid)
    exact ⟨heligible, r, r', hr, hr', runFold_agree hfold hfold' hcutoff hsame⟩
  · intro hversion h revisions revisions' validation validation' day hids hids' hvisible hstart
    refine ⟨foldOf_visible hversion hids hids' hvisible hstart, fun o ho => ?_⟩
    obtain ⟨hday, hembargo, havailable, _⟩ := mem_foldOf hids ho
    exact ⟨hday, havailable, hembargo⟩

/-! ## Ten sessions -/

/-- Exact numbers; the fit is the ridge of constant features, its intercept the weighted mean. -/
def exactNumerics : Numerics ℚ where
  zero := 0
  one := 1
  two := 2
  sub a b := a - b
  square x := some (x * x)
  fsum xs := some xs.sum
  div x n := if n = 0 then none else some (x / n)
  max := max
  min := min
  lt a b := decide (a < b)
  reduced x := 19 / 20 * x
  clip x := max (-100) (min 100 x)
  finite _ := true
  returnBps pnl notional := some (pnl / notional * 10000)
  fit _ targets weights :=
    let w := (weights.getD []).map fun x => x * targets.length / (weights.getD []).sum
    let intercept := (List.zipWith (· * ·) w targets).sum / targets.length
    .ok {
      family := "ridge", featureNames, means := featureNames.map fun _ => 0
      scales := featureNames.map fun _ => 1, coefficients := featureNames.map fun _ => 0
      intercept, alpha := 1
      trainingMse := (List.zipWith (fun x t => x * ((t - intercept) * (t - intercept))) w
        targets).sum / targets.length
      seed := 0, algorithmVersion := "weighted-ridge", sampleWeights := some w }
  predict estimator rows := some (rows.map fun _ => estimator.intercept)

/-- Six episodes in each of five sessions, and one in each of the five after them. -/
def sampleEpisode (pnl : ℕ → ℚ) (n : ℕ) : LearningEpisode ℚ :=
  let session : Int := if n < 30 then n / 6 + 1 else n - 24
  let start := session * 86400 * second
  let finish := start + 1800 * second
  { outcome :=
      { id := toString n, status := .complete, costReason := "", reconciliationId := "settled"
        netPnl := some (pnl n), grossPnl := pnl n, entryNotional := 100
        policyId := "collect-owned-30m-stop100-v1", dataset := "EXPLICIT_SYNTHETIC"
        evidenceLane := .syntheticTest, sourceStart := some start, sourceEnd := some finish
        availableAt := some finish }
    observation :=
      { recordedAt := start + 300 * second, sourceStart := start
        sourceEnd := start + 300 * second, availableAt := start + 300 * second
        featureVersion := fiveMinuteVersion, features := featureNames.map fun name => (name, 0) }
    session }

def sampleCalendar : LearningCalendar where
  sessions := (List.range 10).map fun n =>
    ⟨n + 1, (n + 1) * 86400 * second - 3600 * second, (n + 1) * 86400 * second + 21600 * second⟩

/-- The sessions six to ten, each scored after a fit to the first five. -/
def samplePlan : List (FoldPlan ℕ ℚ) :=
  (List.range 5).map fun n : ℕ =>
    { session := (n : Int) + 6, cutoff := ((n : Int) + 6) * 86400 * second - 3600 * second
      training := List.range 30, validation := [n + 30], historicalModelIds := [""]
      historicalModels := [{}], historicalAvailableAt := [none], historicalReceiptIds := [none]
      historicalAcknowledgementIds := [none], historicalAcknowledgementAvailableAt := [none] }

def sampleRun (pnl : ℕ → ℚ) (runId : String) : Except ProcedureError (ProcedureResult ℚ) :=
  runProcedure exactNumerics (fun _ => "") (samplePlan.map (·.fold (sampleEpisode pnl))) [] {} {}
    sampleCalendar (11 * 86400 * second) runId

/-- One outcome that is available when the third day opens, and one that is not yet. -/
def sampleRevisions : List Revision :=
  [2, 3].map fun n =>
    { outcomeId := toString n, lotId := toString n, availableText := ""
      availableAt := some (n * 86400 * second), sourceStart := some (n * 86400 * second - 600)
      sourceEnd := some (n * 86400 * second - 300), sessionClose := some (n * 86400 * second)
      dataset := "EXPLICIT_SYNTHETIC", policyId := "collect-owned-30m-stop100-v1"
      evidenceLane := .syntheticTest, featureVersion := fiveMinuteVersion, status := .complete }

def sampleHolds : Holds where
  now := 4 * 86400 * second
  quarantined _ := false
  pending _ := false
  guard _ _ := none
  newYorkDay t := t / (86400 * second)

/-- Scored on the third day. -/
def sampleScored : List OutcomeRow :=
  [⟨"scored", "scored", 3, 3 * 86400 * second, 3 * 86400 * second + 60, 3 * 86400 * second + 60,
    3 * 86400 * second + 21600 * second⟩]

theorem sampleEpisode_agree (pnl pnl' : ℕ → ℚ) (h : ∀ n < 30, pnl' n = pnl n) :
    ∀ p ∈ samplePlan.head?, AgreeAt (p.fold (sampleEpisode pnl)) (sampleEpisode pnl)
      (sampleEpisode pnl') := by
  intro p hp id heligible; cases hp; by_cases hid : id < 30
  · unfold sampleEpisode; rw [h id hid]
  obtain ⟨at_, hat, hle⟩ := heligible.outcome; cases hat; rw [if_neg hid] at hle
  have hcut : ((id : Int) - 24) * 86400 * second + 1800 * second ≤
    ((0 : ℕ) + 6) * 86400 * second - 3600 * second := hle
  unfold second at hcut; omega

theorem procedure_no_lookahead_sample :
    (∃ result result' r r', sampleRun (fun _ => 1) "first" = .ok result ∧
      sampleRun (fun n => if n < 30 then 1 else 5) "second" = .ok result' ∧
      result.folds[0]? = some r ∧ result'.folds[0]? = some r' ∧ r'.rawWeights = r.rawWeights ∧
      r'.artifact = { r.artifact with learningReceiptId := "second" }) ∧
    (foldOf sampleCalendar sampleScored (selectAt sampleHolds {} sampleRevisions) 3).1.training =
      (foldOf sampleCalendar sampleScored (selectAt sampleHolds {} (sampleRevisions.take 1))
        3).1.training := by
  have hreturns : ∀ {x : Except ProcedureError (ProcedureResult ℚ)}, x.isOk = true →
      ∃ r, x = .ok r := by
    intro x hx
    cases x with
    | error e => cases hx
    | ok r => exact ⟨r, rfl⟩
  obtain ⟨result, hrun⟩ := hreturns (x := sampleRun (fun _ => 1) "first") (by decide +kernel)
  obtain ⟨result', hrun'⟩ := hreturns
    (x := sampleRun (fun n => if n < 30 then 1 else 5) "second") (by decide +kernel)
  obtain ⟨hrows, hfolds⟩ := procedure_no_lookahead (ι := ℕ) exactNumerics (fun _ => "") {} {}
    sampleCalendar
  obtain ⟨_, r, r', hr, hr', hweights, _, hartifact⟩ := hrows _ _ samplePlan samplePlan [] [] _ _
    _ _ _ _ hrun hrun' 0 _ _ rfl rfl rfl rfl
    (sampleEpisode_agree _ _ (fun n hn => if_pos hn) _ rfl)
  refine ⟨⟨result, result', r, r', hrun, hrun', hr, hr', hweights, hartifact⟩, ?_⟩
  refine (hfolds (by decide) sampleHolds (sampleRevisions.take 1) sampleRevisions sampleScored
    sampleScored 3 (by decide) (by decide) (fun r hvisible => ?_) rfl).1
  unfold sampleRevisions
  rw [List.map_cons, List.map_cons, List.map_nil, List.take_succ_cons, List.take_zero,
    List.mem_singleton, List.mem_cons, List.mem_singleton]
  refine ⟨fun h => .inl h, fun h => h.resolve_right fun hlate => ?_⟩
  rw [hlate] at hvisible
  revert hvisible
  decide

end Quantbot.L4.Procedure
