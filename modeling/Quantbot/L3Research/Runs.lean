import Quantbot.L3Research.Outcomes

/-!
# Recorded runs

`ExperimentRunner.run` from the handoff on: the measurement, the outcome, the manifest and its
file. The session and the manifest directory are the state; the directory can be written.

* `run_recorded`: once the token is issued, the consumption stays whatever follows; what is
  returned is written, with the verdict its numbers earn; an exception and a refused output are
  recorded as failures; all else that leaves the run is a defect.
* `record_returns`: a bundle is recorded unless its manifest is refused or a file is in the way.
* `run_unrecorded`: a blank probe name, and a run that read its holdout leaves no manifest.
-/
namespace Quantbot.L3.Experiment

open Core Txn L1 L2 Registry
open Memory (ArtifactOutcome GraphArtifactKind)
open Promotion (CampaignVerdict OutcomeVerdict ScenarioVerdict)

/-! ## Manifests -/

/-- The commit and every other text of the code and the environment.
mirrors manifest.py:187-207 -/
structure Provenance where
  gitCommit : String
  texts : List String
deriving DecidableEq

/-- mirrors runner.py:300-344 -/
structure ExperimentDesign where
  walkForwardSplits : List (String × Int × Int)
  neighborhoodGrid : List (String × List Int)
  ablations : List String
  split : walkForwardSplits ≠ []
  swept : neighborhoodGrid ≠ [] ∧ ∀ entry ∈ neighborhoodGrid, entry.2 ≠ []
  unique : ablations.Nodup
deriving DecidableEq

/-- mirrors manifest.py:321-336 -/
structure ReproductionInput where
  name : String
  contentHash : String
  bytes : Nat
deriving DecidableEq

/-- A confirmatory manifest.
mirrors manifest.py:352-410 -/
structure Manifest where
  experimentId : String
  dataHash : String
  costs : List (String × String)
  /-- The one period and the holdout. -/
  window : Int × Int
  design : ExperimentDesign
  results : List (String × List (String × String))
  hypothesisId : String
  hypothesisVersion : Nat
  registrationHash : String
  hypothesisGraphHash : Option String
  minimumDetectableEffect : String
  overridden : Bool
  datasets : List DatasetSnapshot
  statistics : StatisticalPlan
  provenance : Provenance
  reproductionInputs : List ReproductionInput
deriving DecidableEq

/-- Rendering and hashing, and what of a text looks like a credential. -/
structure Recording extends Grading where
  looksLikeCredential : String → Bool
  sha256 : String → String
  utf8Length : String → Nat
  refusalText : RunRefusal → String
  experimentId : String × Nat × String × Int × List String → String
  dataHash : List String → String
  outcomeJson : CampaignOutcome → String
  canonicalJson : Manifest → String

def redacted : String := "[REDACTED]"

def verdictText : OutcomeVerdict → String
  | .survived => "SURVIVED"
  | .refuted => "REFUTED"
  | .underpowered => "UNDERPOWERED"
  | .inconclusive => "INCONCLUSIVE"
  | .failed => "FAILED"

def campaignVerdictText : CampaignVerdict → String
  | .survived => "SURVIVED"
  | .refuted => "REFUTED"
  | .underpowered => "UNDERPOWERED"
  | .inconclusive => "INCONCLUSIVE"

def scenarioVerdictText : ScenarioVerdict → String
  | .survived => "SURVIVED"
  | .refuted => "REFUTED"
  | .underpowered => "UNDERPOWERED"
  | .mislabeled => "MISLABELED"
  | .unverified => "UNVERIFIED"
  | .unassessed => "UNASSESSED"

def artifactKindText : GraphArtifactKind → String
  | .component => "COMPONENT"
  | .relationship => "RELATIONSHIP"

section record

variable (rc : Recording)

/-- mirrors runner.py:196-211 -/
def manifestText (value : String) : String :=
  if rc.looksLikeCredential value then redacted else value

def decimalText (x : Option ℚ) : String := (x.map rc.str).getD ""

/-- mirrors runner.py:169-193 -/
def scenarioResults (s : ScenarioOutcome) : String × List (String × String) :=
  ("validation:scenario:" ++ s.scenarioId,
    [("scenario_id", s.scenarioId),
     ("verdict", scenarioVerdictText s.verdict),
     ("effect", decimalText rc s.effect),
     ("confidence_low", decimalText rc s.confidenceLow),
     ("confidence_high", decimalText rc s.confidenceHigh),
     ("test_statistic", decimalText rc s.testStatistic),
     ("trades", toString s.trades),
     ("effective_observations", toString s.effectiveObservations),
     ("fresh_evidence", if s.freshEvidence then "true" else "false"),
     ("regime_metrics", ", ".intercalate
       ((s.regimeMetrics.mergeSort fun a b => a.1 ≤ b.1).map fun m => m.1 ++ "=" ++ rc.str m.2)),
     ("detail", s.detail)])

/-- mirrors runner.py:123-193 -/
def campaignResults : Option CampaignOutcome → List (String × List (String × String))
  | none => []
  | some o =>
    ("validation:campaign",
      [("campaign_id", o.campaignId),
       ("verdict", campaignVerdictText o.verdict),
       ("underpowered_count", toString o.underpoweredCount),
       ("underpowered_fraction", rc.str o.underpoweredFraction),
       ("integrity_defects", " | ".intercalate o.integrityDefects),
       ("detail", o.detail),
       ("outcome_json", rc.outcomeJson o)]) :: o.scenarios.map (scenarioResults rc)

def artifactResults (a : ArtifactOutcome) : String × List (String × String) :=
  ("artifact:" ++ a.testId,
    [("test_registration_hash", a.testRegistrationHash),
     ("artifact_kind", artifactKindText a.artifactKind),
     ("artifact_content_id", a.artifactContentId),
     ("verdict", a.verdict.value),
     ("effect", a.effect),
     ("confidence_low", a.confidenceLow),
     ("confidence_high", a.confidenceHigh),
     ("test_statistic", a.testStatistic),
     ("probes_run", ", ".intercalate a.probesRun),
     ("probes_failed", ", ".intercalate a.probesFailed),
     ("detail", a.detail)])

def primaryResults (o : ExperimentOutcome) : List (String × String) :=
  [("verdict", verdictText o.verdict),
   ("effect", decimalText rc o.effect),
   ("test_statistic", decimalText rc o.testStatistic),
   ("probes_run", ", ".intercalate o.probesRun),
   ("probes_failed", ", ".intercalate o.probesFailed),
   ("detail", manifestText rc o.detail)]

/-- mirrors runner.py:1130-1172 -/
def results (o : ExperimentOutcome) : List (String × List (String × String)) :=
  o.diagnostics.map (fun d => ("diagnostic:" ++ d.1, [("value", manifestText rc d.2)])) ++
    campaignResults rc o.validationOutcome ++ o.artifactOutcomes.map artifactResults ++
    [("primary", primaryResults rc o)]

/-- Every text of a manifest but its keys.
mirrors manifest.py:532-539 -/
def Manifest.strings (m : Manifest) : List String :=
  [m.experimentId, m.dataHash, m.hypothesisId, m.registrationHash, m.minimumDetectableEffect,
      "protected-evaluation", m.provenance.gitCommit, m.statistics.minimumDetectableEffect] ++
    m.costs.map (·.2) ++ m.design.walkForwardSplits.map (·.1) ++ m.design.ablations ++
    m.results.flatMap (fun entry => entry.2.map (·.2)) ++ m.hypothesisGraphHash.toList ++
    m.datasets.flatMap (fun x => [x.dataset, x.snapshot, x.role.value, x.contentHash, x.provider,
      x.transformationVersion]) ++
    m.provenance.texts ++ m.reproductionInputs.flatMap fun i => [i.name, i.contentHash]

/-- mirrors manifest.py:412-510, quantbot/research/manifest.py:180-184 -/
def Manifest.Valid (m : Manifest) : Prop :=
  m.window.1 ≤ m.window.2 ∧
    (∀ value ∈ [m.experimentId, m.provenance.gitCommit, m.dataHash, m.registrationHash],
      value ≠ "" ∧ strip value = value) ∧
    (∀ hash ∈ m.hypothesisGraphHash, L2.contentHash hash = true) ∧
    (m.reproductionInputs.map (·.name)).Nodup ∧
    ("slippage_bps" ∈ m.costs.map (·.1) ∧ "commission_per_order" ∈ m.costs.map (·.1)) ∧
    ("protected-evaluation" :: m.design.walkForwardSplits.map (·.1)).Nodup ∧
    m.registrationHash.length = 64 ∧ m.datasets ≠ [] ∧
    (∀ x ∈ m.datasets, x.retrievedAt ≠ none ∧ x.earliestAvailableAt ≠ none ∧
      x.provider ≠ "unrecorded" ∧ x.transformationVersion ≠ "unrecorded") ∧
    ∀ text ∈ m.strings, rc.looksLikeCredential text = false
deriving Decidable

/-- The span of the snapshots.
mirrors runner.py:1297-1303 -/
def planWindow : List DatasetSnapshot → Int × Int
  | [] => (0, 0)
  | x :: rest => rest.foldl (fun w y => (min w.1 y.start, max w.2 y.finish)) (x.start, x.finish)

/-- What a run records beside what it measured. -/
structure RunSetup where
  provenance : Provenance
  appliedCosts : List (String × String)
  design : ExperimentDesign

/-- `{**plan.costs, **applied_costs}`. -/
def mergedCosts (claimed applied : List (String × String)) : List (String × String) :=
  claimed.filter (fun c => c.1 ∉ applied.map (·.1)) ++ applied

/-- mirrors runner.py:1081-1199 -/
def manifestOf (setup : RunSetup) (persisted : Registration) (o : ExperimentOutcome)
    (inputs : List ReproductionInput) : Manifest where
  experimentId := rc.experimentId (o.plan.hypothesisId, o.plan.hypothesisVersion,
    o.plan.registrationHash, o.completedAt,
    o.plan.artifactTests.map fun t => rc.contentId (.artifactTest t))
  dataHash := rc.dataHash (o.plan.datasets.map (·.contentHash))
  costs := mergedCosts o.plan.costs setup.appliedCosts
  window := planWindow o.plan.datasets
  design := setup.design
  results := results rc o
  hypothesisId := o.plan.hypothesisId
  hypothesisVersion := o.plan.hypothesisVersion
  registrationHash := o.plan.registrationHash
  hypothesisGraphHash := o.plan.hypothesisGraphHash
  minimumDetectableEffect := (rc.claim persisted).minimumDetectableEffect
  overridden := (rc.claim persisted).overridden
  datasets := o.plan.datasets
  statistics := o.plan.statistics
  provenance := setup.provenance
  reproductionInputs := inputs

/-! ## The manifest directory -/

/-- The directory of a bundle's inputs, none for a manifest; the name and the text. -/
structure BundleFile where
  directory : Option String
  name : String
  text : String
deriving DecidableEq

abbrev Files := Table BundleFile fun f => (f.directory, f.name)

/-- Created once; an exact repeat is accepted.
mirrors manifest.py:542-557 -/
def writeExperimentManifest (name text : String) : Txn Files RunError PUnit := fun files =>
  match files.get? (none, name) with
  | none => .ok ⟨⟩ (files.insert ⟨none, name, text⟩)
  | some existing => if existing.text = text then .ok ⟨⟩ files else .error .write files

/-- `..` is a directory, and no name holds a NUL.
mirrors runner.py:1067-1079 -/
def writeInput (experimentId : String) (input : String × String) : Txn Files RunError PUnit :=
  fun files =>
    if '\x00' ∈ input.1.toList then .error .validation files
    else if input.1 = ".." then .error .write files
    else .ok ⟨⟩ (files.upsert ⟨some (experimentId ++ ".inputs"), input.1, input.2⟩)

/-- `Path(name).name != name` holds of the empty name and of `.`.
mirrors runner.py:75-87 -/
def badInputName (name : String) : Bool :=
  '/' ∈ name.toList || '\\' ∈ name.toList || name = "" || name = "." || strip name = ""

/-- mirrors runner.py:90-112 -/
def describeInputs (inputs : List (String × String)) : Except RunError (List ReproductionInput) :=
  if inputs.any fun i => badInputName i.1 then .error (.refused .badInputName)
  else .ok ((inputs.mergeSort fun a b => a.1 ≤ b.1).map fun i =>
    ⟨strip i.1, rc.sha256 i.2, rc.utf8Length i.2⟩)

structure RunResult where
  outcome : ExperimentOutcome
  manifest : Manifest
  manifestPath : String
deriving DecidableEq

def manifestName (m : Manifest) : String :=
  m.hypothesisId ++ "-v" ++ toString m.hypothesisVersion ++ "-" ++
    String.ofList ((rc.sha256 (rc.canonicalJson m)).toList.take 16) ++ ".json"

/-- mirrors runner.py:1017-1064 -/
def record (setup : RunSetup) (persisted : Registration) (o : ExperimentOutcome)
    (inputs : List (String × String)) : Txn Files RunError RunResult :=
  match describeInputs rc inputs with
  | .error e => throw e
  | .ok described => do
    let m := manifestOf rc setup persisted o described
    Txn.require (m.Valid rc) .validation
    writeExperimentManifest (manifestName rc m) (rc.canonicalJson m)
    inputs.forM (writeInput m.experimentId)
    pure ⟨o, m, manifestName rc m⟩

/-! ## The run -/

structure Bench where
  session : Core.Session RegistryStore
  files : Files

abbrev BenchTxn := Txn Bench RunError

def inSession {α : Type} (x : RunTxn α) : BenchTxn α :=
  zoom (·.session) (fun b s => { b with session := s }) id x

def inFiles {α : Type} (x : Txn Files RunError α) : BenchTxn α :=
  zoom (·.files) (fun b f => { b with files := f }) id x

/-- A measurement returns, or raises an exception of the given type name and message. -/
abbrev Measurement := ExperimentPlan → ProtectedAccess → Except (String × String) Measured

/-- What is recorded of an outcome, or the error of grading it. -/
def recordGraded (setup : RunSetup) (persisted : Registration)
    (graded : Except RunError ExperimentOutcome) (inputs : List (String × String)) :
    Txn Files RunError RunResult :=
  match graded with
  | .ok o => record rc setup persisted o inputs
  | .error e => throw e

/-- mirrors runner.py:437-495 -/
def concluded (setup : RunSetup) (plan : ExperimentPlan) (persisted : Registration) (now : Int)
    (measured : Except (String × String) Measured) : Txn Files RunError RunResult :=
  match measured with
  | .error error =>
    recordGraded rc setup persisted
      (failedOutcome rc.toGrading plan persisted (error.1 ++ ": " ++ error.2) now) []
  | .ok m => fun files =>
    match recordGraded rc setup persisted (grade rc.toGrading plan persisted m now)
        m.reproductionInputs files with
    | .error (.refused reason) files' =>
      recordGraded rc setup persisted (failedOutcome rc.toGrading plan persisted
        ("the run was refused after the protected handoff: " ++ rc.refusalText reason) now) [] files'
    | result => result

/-- mirrors runner.py:365-495 -/
def run (setup : RunSetup) (plan : ExperimentPlan) (registration : Registration)
    (measurement : Measurement) (now : Int) : BenchTxn RunResult := do
  let (persisted, access) ←
    inSession (handoff rc.toReadings plan registration (setup.appliedCosts.map (·.1)) now)
  inFiles (concluded rc setup plan persisted now (measurement plan access))

end record

/-! ## What is recorded -/

section recorded

variable {rc : Recording} {setup : RunSetup} {plan : ExperimentPlan} {persisted : Registration}
  {o : ExperimentOutcome} {now : Int} {inputs : List (String × String)} {files files' : Files}
  {result : RunResult} {e : RunError}

/-- The bundle stands in the directory, under its name. -/
def Written (rc : Recording) (result : RunResult) (files : Files) : Prop :=
  result.manifest.Valid rc ∧ files.get? (none, result.manifestPath) =
    some ⟨none, result.manifestPath, rc.canonicalJson result.manifest⟩

variable {u : PUnit} {name text : String}

theorem writeExperimentManifest_ok (h : writeExperimentManifest name text files = .ok u files') :
    files'.get? (none, name) = some ⟨none, name, text⟩ := by
  unfold writeExperimentManifest at h; split at h
  · next hnone =>
    cases h
    exact (Table.get?_insert (a := (⟨none, name, text⟩ : BundleFile)) hnone (none, name)).trans
      (if_pos rfl)
  next existing hsome =>
  split at h
  · next htext =>
    cases h; rw [hsome]; obtain ⟨_, hkey⟩ := Table.get?_some hsome
    obtain ⟨hdirectory, hname⟩ := Prod.mk.inj hkey
    obtain ⟨directory, existingName, existingText⟩ := existing; cases hdirectory
    cases hname; cases htext; rfl
  · cases h

variable {detail experimentId : String}

theorem writeInput_ok {input : String × String}
    (h : writeInput experimentId input files = .ok u files') (name : String) :
    files'.get? (none, name) = files.get? (none, name) := by
  unfold writeInput at h; split at h
  · cases h
  split at h
  · cases h
  cases h
  exact (Table.get?_upsert files (⟨some (experimentId ++ ".inputs"), input.1, input.2⟩ :
    BundleFile) (none, name)).trans (if_neg (by simp))

theorem writeInputs_ok (h : inputs.forM (writeInput experimentId) files = .ok u files')
    (name : String) : files'.get? (none, name) = files.get? (none, name) := by
  induction inputs generalizing files with
  | nil =>
    obtain ⟨_, rfl⟩ := pure_ok.1 h; rfl
  | cons input inputs ih =>
    obtain ⟨_, files₁, hinput, hrest⟩ := bind_ok.1 h
    exact (ih hrest).trans (writeInput_ok hinput name)

/-- A name the runner refuses. -/
def Misnamed (inputs : List (String × String)) : Prop := ∃ i ∈ inputs, badInputName i.1 = true

theorem describeInputs_ok {described : List ReproductionInput}
    (h : describeInputs rc inputs = .ok described) : ¬ Misnamed inputs := by
  unfold describeInputs at h; split at h
  · cases h
  next hgood =>
  intro ⟨i, hi, hbad⟩; exact hgood (List.any_eq_true.2 ⟨i, hi, hbad⟩)

theorem describeInputs_error (h : describeInputs rc inputs = .error e) :
    Misnamed inputs ∧ e = .refused .badInputName := by
  unfold describeInputs at h; split at h
  · next hbad =>
    cases h; exact ⟨List.any_eq_true.1 hbad, rfl⟩
  · cases h

theorem record_ok (h : record rc setup persisted o inputs files = .ok result files') :
    result.outcome = o ∧ ¬ Misnamed inputs ∧
      (∃ described, result.manifest = manifestOf rc setup persisted o described) ∧
      Written rc result files' := by
  unfold record at h
  cases hdescribed : describeInputs rc inputs with
  | error e =>
    rw [hdescribed] at h; cases h
  | ok described =>
    rw [hdescribed] at h; rw [bind_ok] at h
    obtain ⟨_, files₁, hrequire, h⟩ := h
    obtain ⟨hvalid, rfl⟩ := require_ok.1 hrequire; rw [bind_ok] at h
    obtain ⟨_, files₂, hwrite, h⟩ := h; rw [bind_ok] at h
    obtain ⟨_, files₃, hinputs, h⟩ := h; obtain ⟨rfl, rfl⟩ := pure_ok.1 h
    refine ⟨rfl, describeInputs_ok hdescribed, ⟨described, rfl⟩, hvalid, ?_⟩
    rw [writeInputs_ok hinputs]; exact writeExperimentManifest_ok hwrite

/-- A defect, or a file that cannot be written. -/
def Breaks (e : RunError) : Prop := Defect e ∨ e = .write

theorem writeInputs_error (h : inputs.forM (writeInput experimentId) files = .error e files') :
    Breaks e := by
  induction inputs generalizing files with
  | nil => cases h
  | cons input inputs ih =>
    rcases bind_error.1 h with hinput | ⟨_, files₁, _, hrest⟩
    · unfold writeInput at hinput; split at hinput
      · cases hinput; exact .inl (.inl rfl)
      · split at hinput
        · cases hinput; exact .inr rfl
        · cases hinput
    · exact ih hrest

theorem record_error (h : record rc setup persisted o inputs files = .error e files') :
    Breaks e ∨ Misnamed inputs ∧ e = .refused .badInputName ∧ files' = files := by
  unfold record at h
  cases hdescribed : describeInputs rc inputs with
  | error e' =>
    rw [hdescribed] at h
    obtain ⟨hmisnamed, rfl⟩ := describeInputs_error hdescribed; cases h
    exact .inr ⟨hmisnamed, rfl, rfl⟩
  | ok described =>
    left; rw [hdescribed] at h; rw [bind_error] at h
    rcases h with hvalid | ⟨_, files₁, _, h⟩
    · unfold Txn.require at hvalid; split at hvalid
      · cases hvalid
      · cases hvalid; exact .inl (.inl rfl)
    rw [bind_error] at h; rcases h with hwrite | ⟨_, files₂, _, h⟩
    · unfold writeExperimentManifest at hwrite; split at hwrite
      · cases hwrite
      split at hwrite
      · cases hwrite
      · cases hwrite; exact .inr rfl
    rw [bind_error] at h; rcases h with hinputs | ⟨_, files₃, _, h⟩
    · exact writeInputs_error hinputs
    · cases h

/-- What a bundle takes to be recorded. -/
structure Recordable (rc : Recording) (setup : RunSetup) (persisted : Registration)
    (o : ExperimentOutcome) (inputs : List (String × String)) (files : Files) : Prop where
  named : ¬ Misnamed inputs
  valid : ∀ described, describeInputs rc inputs = .ok described →
    (manifestOf rc setup persisted o described).Valid rc
  free : ∀ described, describeInputs rc inputs = .ok described →
    ∀ f ∈ files.get? (none, manifestName rc (manifestOf rc setup persisted o described)),
      f.text = rc.canonicalJson (manifestOf rc setup persisted o described)
  writable : ∀ i ∈ inputs, '\x00' ∉ i.1.toList ∧ i.1 ≠ ".."

theorem writeExperimentManifest_returns :
    (∃ u files', writeExperimentManifest name text files = .ok u files') ↔
      ∀ f ∈ files.get? (none, name), f.text = text := by
  unfold writeExperimentManifest
  cases hget : files.get? (none, name) with
  | none => exact ⟨fun _ f hf => (by cases hf), fun _ => ⟨_, _, rfl⟩⟩
  | some existing =>
    dsimp only; constructor
    · intro ⟨u, files', h⟩ f hf; cases hf; split at h
      · next htext => exact htext
      · cases h
    · intro h; rw [if_pos (h existing rfl)]; exact ⟨_, _, rfl⟩

theorem writeInputs_returns :
    (∃ u files', inputs.forM (writeInput experimentId) files = .ok u files') ↔
      ∀ i ∈ inputs, '\x00' ∉ i.1.toList ∧ i.1 ≠ ".." := by
  induction inputs generalizing files with
  | nil => exact ⟨fun _ i hi => (by cases hi), fun _ => ⟨⟨⟩, files, rfl⟩⟩
  | cons input inputs ih =>
    constructor
    · intro ⟨u, files', h⟩ i hi
      obtain ⟨_, files₁, hinput, hrest⟩ := bind_ok.1 h
      rcases List.mem_cons.1 hi with rfl | hi
      · unfold writeInput at hinput; split at hinput
        · cases hinput
        next hnul =>
        split at hinput
        · cases hinput
        · next hdots => exact ⟨hnul, hdots⟩
      · exact ih.1 ⟨u, files', hrest⟩ i hi
    · intro h; obtain ⟨hnul, hdots⟩ := h input List.mem_cons_self
      obtain ⟨u, files', hrest⟩ := ih.2 fun i hi => h i (List.mem_cons_of_mem _ hi)
      refine ⟨u, files', bind_ok.2 ⟨⟨⟩, _, ?_, hrest⟩⟩; unfold writeInput
      rw [if_neg hnul, if_neg hdots]

/-- **A bundle is recorded** just when its manifest is valid and nothing is in its way. -/
theorem record_returns : (∃ result files', record rc setup persisted o inputs files =
      .ok result files' ∧ result.outcome = o) ↔ Recordable rc setup persisted o inputs files := by
  unfold record
  cases hdescribed : describeInputs rc inputs with
  | error e =>
    constructor
    · intro ⟨_, _, h, _⟩; cases h
    · intro h; exact absurd (describeInputs_error hdescribed).1 h.named
  | ok described =>
    constructor
    · intro ⟨result, files', h, _⟩; rw [bind_ok] at h
      obtain ⟨_, files₁, hrequire, h⟩ := h
      obtain ⟨hvalid, rfl⟩ := require_ok.1 hrequire; rw [bind_ok] at h
      obtain ⟨_, files₂, hwrite, h⟩ := h; rw [bind_ok] at h
      obtain ⟨_, files₃, hinputs, h⟩ := h
      refine ⟨describeInputs_ok hdescribed, fun d hd => ?_, fun d hd => ?_,
        writeInputs_returns.1 ⟨_, _, hinputs⟩⟩
      · rw [hdescribed] at hd; cases hd; exact hvalid
      · rw [hdescribed] at hd; cases hd
        exact writeExperimentManifest_returns.1 ⟨_, _, hwrite⟩
    · intro h
      obtain ⟨_, files₂, hwrite⟩ := writeExperimentManifest_returns.2 (h.free _ hdescribed)
      obtain ⟨_, files₃, hinputs⟩ : ∃ u files', inputs.forM (writeInput
          (manifestOf rc setup persisted o described).experimentId) files₂ = .ok u files' :=
        writeInputs_returns.2 h.writable
      refine ⟨⟨o, manifestOf rc setup persisted o described,
        manifestName rc (manifestOf rc setup persisted o described)⟩, files₃, ?_, rfl⟩
      refine bind_ok.2 ⟨⟨⟩, files, require_ok.2 ⟨h.valid _ hdescribed, rfl⟩, ?_⟩
      refine bind_ok.2 ⟨⟨⟩, files₂, hwrite, ?_⟩
      exact bind_ok.2 ⟨_, files₃, hinputs, rfl⟩

/-! ## What a run concludes -/

/-- The runner refuses the output: scenarios nobody froze, or an input that is no file name. -/
def Refused (persisted : Registration) (m : Measured) : Prop :=
  Unregistered persisted m ∨ Misnamed m.reproductionInputs

variable {graded : Except RunError ExperimentOutcome}

theorem recordGraded_ok
    (h : recordGraded rc setup persisted graded inputs files = .ok result files') :
    graded = .ok result.outcome ∧ record rc setup persisted result.outcome inputs files =
      .ok result files' := by
  cases graded with
  | error e => cases h
  | ok o =>
    obtain ⟨houtcome, _⟩ := record_ok h
    exact ⟨congrArg _ houtcome.symm, houtcome.symm ▸ h⟩

theorem recordGraded_error
    (h : recordGraded rc setup persisted graded inputs files = .error e files') :
    (graded = .error e ∧ files' = files) ∨ Breaks e ∨
      Misnamed inputs ∧ e = .refused .badInputName ∧ files' = files := by
  cases graded with
  | error e' =>
    cases h; exact .inl ⟨rfl, rfl⟩
  | ok o => exact .inr (record_error h)

theorem not_misnamed_nil : ¬ Misnamed [] := fun ⟨_, hi, _⟩ => absurd hi List.not_mem_nil

theorem failed_recorded {detail : String} {x : EStateM.Result RunError Files RunResult}
    (h : recordGraded rc setup persisted (failedOutcome rc.toGrading plan persisted detail now) []
      files = x) :
    match x with
    | .ok result files' => result.outcome.verdict = .failed ∧ Written rc result files' ∧
        result.outcome.artifactOutcomes.map (·.testId) =
          plan.artifactTests.map (testId rc.toReadings)
    | .error e _ => Breaks e := by
  cases x with
  | ok result files' =>
    obtain ⟨hfailed, hrecord⟩ := recordGraded_ok h
    obtain ⟨hverdict, hartifacts⟩ := failedOutcome_ok hfailed
    exact ⟨hverdict, (record_ok hrecord).2.2.2, hartifacts⟩
  | error e files' =>
    rcases recordGraded_error h with ⟨hfailed, _⟩ | hbreaks | ⟨hmisnamed, _⟩
    · exact .inl (failedOutcome_error hfailed)
    · exact hbreaks
    · exact absurd hmisnamed not_misnamed_nil

variable {m : Measured} {m : Measured}

theorem concluded_refused {reason : RunRefusal}
    (h : recordGraded rc setup persisted (grade rc.toGrading plan persisted m now)
      m.reproductionInputs files = .error (.refused reason) files') :
    Refused persisted m ∧ files' = files ∧ concluded rc setup plan persisted now (.ok m) files =
        recordGraded rc setup persisted (failedOutcome rc.toGrading plan persisted
          ("the run was refused after the protected handoff: " ++ rc.refusalText reason) now) []
          files := by
  have hsame : Refused persisted m ∧ files' = files := by
    rcases recordGraded_error h with ⟨hgrade, hfiles⟩ | hbreaks | ⟨hmisnamed, _, hfiles⟩
    · rcases grade_error hgrade with hdefect | ⟨_, hu⟩
      · rcases hdefect with hd | hd <;> cases hd
      · exact ⟨.inl hu, hfiles⟩
    · rcases hbreaks with (hd | hd) | hd <;> cases hd
    · exact ⟨.inr hmisnamed, hfiles⟩
  refine ⟨hsame.1, hsame.2, ?_⟩; unfold concluded; dsimp only; rw [h, hsame.2]

variable {measured : Except (String × String) Measured}

theorem concluded_ok
    (h : concluded rc setup plan persisted now measured files = .ok result files') :
    Written rc result files' ∧ result.outcome.artifactOutcomes.map (·.testId) =
        plan.artifactTests.map (testId rc.toReadings) ∧ (result.outcome.verdict = .survived ↔
        ∃ m, measured = .ok m ∧ ¬ Refused persisted m ∧ Survives rc.toGrading plan persisted m) := by
  cases measured with
  | error error =>
    obtain ⟨hverdict, hwritten, hartifacts⟩ := failed_recorded h
    refine ⟨hwritten, hartifacts, fun hv => ?_, fun ⟨_, hm, _⟩ => (by cases hm)⟩
    rw [hverdict] at hv; cases hv
  | ok m =>
    cases hgraded : recordGraded rc setup persisted (grade rc.toGrading plan persisted m now)
        m.reproductionInputs files with
    | ok result' files₁ =>
      have heq : result' = result ∧ files₁ = files' := by
        unfold concluded at h; dsimp only at h; rw [hgraded] at h
        cases h; exact ⟨rfl, rfl⟩
      obtain ⟨rfl, rfl⟩ := heq
      obtain ⟨hgrade, hrecord⟩ := recordGraded_ok hgraded
      obtain ⟨_, hnamed, _, hwritten⟩ := record_ok hrecord
      refine ⟨hwritten, grade_artifacts hgrade, (grade_survived hgrade).trans
        ⟨fun hs => ⟨m, rfl, ?_, hs⟩, fun ⟨_, hm, _, hs⟩ => ?_⟩⟩
      · rintro (hu | hmisnamed)
        · exact grade_registered hgrade hu
        · exact hnamed hmisnamed
      · cases hm; exact hs
    | error e files₁ =>
      have hrefused : ∃ reason, e = .refused reason := by
        unfold concluded at h; dsimp only at h; rw [hgraded] at h
        cases e with
        | refused reason => exact ⟨reason, rfl⟩
        | _ => cases h
      obtain ⟨reason, rfl⟩ := hrefused
      obtain ⟨hrefused, _, hconcluded⟩ := concluded_refused hgraded
      rw [hconcluded] at h
      obtain ⟨hverdict, hwritten, hartifacts⟩ := failed_recorded h
      refine ⟨hwritten, hartifacts, fun hv => ?_, fun ⟨_, hm, hno, _⟩ => ?_⟩
      · rw [hverdict] at hv; cases hv
      · cases hm; exact absurd hrefused hno

theorem concluded_error
    (h : concluded rc setup plan persisted now measured files = .error e files') : Breaks e := by
  cases measured with
  | error error => exact failed_recorded h
  | ok m =>
    cases hgraded : recordGraded rc setup persisted (grade rc.toGrading plan persisted m now)
        m.reproductionInputs files with
    | ok result files₁ =>
      unfold concluded at h; dsimp only at h; rw [hgraded] at h; cases h
    | error e' files₁ =>
      cases e' with
      | refused reason =>
        rw [(concluded_refused hgraded).2.2] at h; exact failed_recorded h
      | _ =>
        unfold concluded at h; dsimp only at h; rw [hgraded] at h; cases h
        rcases recordGraded_error hgraded with ⟨hgrade, _⟩ | hbreaks | ⟨_, hd, _⟩
        · rcases grade_error hgrade with hdefect | ⟨hd, _⟩
          · exact .inl hdefect
          · cases hd
        · exact hbreaks
        · cases hd

/-! ## What a run returns -/

variable {access : ProtectedAccess} {registration : Registration}

theorem run_handed {measurement : Measurement} {b : Bench} {s : Core.Session RegistryStore}
    (h : handoff rc.toReadings plan registration (setup.appliedCosts.map (·.1)) now b.session =
      .ok (persisted, access) s) :
    run rc setup plan registration measurement now b =
      match concluded rc setup plan persisted now (measurement plan access) b.files with
      | .ok result files => .ok result ⟨s, files⟩
      | .error e files => .error e ⟨s, files⟩ := by
  have hhanded : inSession (handoff rc.toReadings plan registration
      (setup.appliedCosts.map (·.1)) now) b = .ok (persisted, access) ⟨s, b.files⟩ :=
    zoom_ok.2 ⟨s, h, rfl⟩
  show EStateM.bind _ _ b = _; unfold EStateM.bind; rw [hhanded]
  dsimp only; unfold inFiles zoom
  cases concluded rc setup plan persisted now (measurement plan access) b.files <;> rfl

/-- The run returns this outcome just when its bundle can be recorded with these inputs. -/
def Concludes (rc : Recording) (setup : RunSetup) (plan : ExperimentPlan)
    (persisted : Registration) (now : Int) (measured : Except (String × String) Measured)
    (files : Files) (o : ExperimentOutcome) (inputs : List (String × String)) : Prop :=
  (∃ result files', concluded rc setup plan persisted now measured files = .ok result files' ∧
    result.outcome = o) ↔ Recordable rc setup persisted o inputs files

theorem emptyMeasured_wellFormed : WellFormed emptyMeasured where
  decimals x hx := by
    simp only [emptyMeasured, List.mem_cons, List.not_mem_nil, or_false, or_self] at hx
    rw [hx]; exact ⟨none, rfl⟩
  probes t ht := by cases ht
  artifacts a ha := by cases ha

section

variable (hg : Gradable rc.toGrading plan persisted)
include hg

theorem failedOutcome_total (hdetail : strip detail ≠ "") :
    ∃ o, failedOutcome rc.toGrading plan persisted detail now = .ok o := by
  obtain ⟨artifacts, hartifacts⟩ :
      ∃ as, gradeArtifacts rc.toGrading plan emptyMeasured.artifactMeasurements = .ok as :=
    gradeArtifacts_total emptyMeasured_wellFormed
  obtain ⟨campaign, hcampaign⟩ : ∃ c,
      gradeValidationCampaign rc.toGrading persisted emptyMeasured.scenarioMeasurements = .ok c :=
    gradeValidationCampaign_total hg fun hu => hu.2 rfl
  have hbound : campaign.map (·.campaignId) = plan.validationCampaignId :=
    (gradeValidationCampaign_registered hcampaign).2.trans hg.bound.symm
  have hconstruct : ∃ o, ExperimentOutcome.construct plan { verdict := .failed, detail := detail }
      artifacts campaign now = .ok o := by
    refine construct_total emptyMeasured_wellFormed.decimals
      (nofun) (nofun) hdetail
      fun o hplan hverdict _ _ _ ho => ⟨?_, .inl hverdict⟩
    unfold campaignBound; rw [ho, hplan, hbound]
  obtain ⟨o, ho⟩ := hconstruct
  exact ⟨o, except_bind_ok.2 ⟨artifacts, hartifacts, except_bind_ok.2 ⟨campaign, hcampaign, ho⟩⟩⟩

theorem concludes_failed
    {measured : Except (String × String) Measured} {detail : String} (hdetail : strip detail ≠ "")
    (h : concluded rc setup plan persisted now measured files =
      recordGraded rc setup persisted (failedOutcome rc.toGrading plan persisted detail now) []
        files) :
    ∃ o, o.verdict = .failed ∧ Concludes rc setup plan persisted now measured files o [] := by
  obtain ⟨o, ho⟩ : ∃ o, failedOutcome rc.toGrading plan persisted detail now = .ok o :=
    failedOutcome_total hg hdetail
  refine ⟨o, (failedOutcome_ok ho).1, ?_⟩; unfold Concludes; rw [h, ho]
  show (∃ result files', record rc setup persisted o [] files = .ok result files' ∧
    result.outcome = o) ↔ _
  exact record_returns

theorem concludes_error (error : String × String) : ∃ o, o.verdict = .failed ∧
      Concludes rc setup plan persisted now (.error error) files o [] := by
  have hcolon : ':' ∈ (error.1 ++ ": " ++ error.2).toList := by simp
  exact concludes_failed hg (strip_ne_empty hcolon (by decide)) rfl

end

theorem record_misnamed (h : Misnamed inputs) :
    record rc setup persisted o inputs files = .error (.refused .badInputName) files := by
  have hdescribed : describeInputs rc inputs = .error (.refused .badInputName) :=
    if_pos (List.any_eq_true.2 h)
  unfold record; rw [hdescribed]; rfl

theorem recordGraded_refused (hg : Gradable rc.toGrading plan persisted)
    (hm : WellFormed m) (hpath : (∀ probe ∈ plan.probes, probe ∈ m.probesRun) → Cleared plan m →
      plan.executionPath = .productionEngine) (hrefused : Refused persisted m) :
    ∃ reason, recordGraded rc setup persisted (grade rc.toGrading plan persisted m now)
      m.reproductionInputs files = .error (.refused reason) files := by
  by_cases hu : Unregistered persisted m
  · exact ⟨.unregisteredScenarios, by rw [grade_unregistered hm hu]; rfl⟩
  obtain ⟨o, ho⟩ : ∃ o, grade rc.toGrading plan persisted m now = .ok o :=
    grade_total hg hm hu hpath
  refine ⟨.badInputName, ?_⟩; rw [ho]
  exact record_misnamed (hrefused.resolve_left hu)

theorem concluded_recorded (hgrade : grade rc.toGrading plan persisted m now = .ok o)
    (hnamed : ¬ Misnamed m.reproductionInputs) :
    concluded rc setup plan persisted now (.ok m) files =
      record rc setup persisted o m.reproductionInputs files := by
  unfold concluded; dsimp only; rw [hgrade]; unfold recordGraded; dsimp only
  cases hrecord : record rc setup persisted o m.reproductionInputs files with
  | ok result files' => rfl
  | error e files' =>
    cases e with
    | refused reason =>
      rcases record_error hrecord with hbreaks | ⟨hmisnamed, _⟩
      · rcases hbreaks with (hd | hd) | hd <;> cases hd
      · exact absurd hmisnamed hnamed
    | _ => rfl

theorem concludes_ok (hg : Gradable rc.toGrading plan persisted)
    (hm : WellFormed m) (hpath : (∀ probe ∈ plan.probes, probe ∈ m.probesRun) → Cleared plan m →
      plan.executionPath = .productionEngine) :
    ∃ o inputs, Concludes rc setup plan persisted now (.ok m) files o inputs ∧
      (Refused persisted m → o.verdict = .failed ∧ inputs = []) ∧ (¬ Refused persisted m →
        grade rc.toGrading plan persisted m now = .ok o ∧ inputs = m.reproductionInputs) := by
  by_cases hrefused : Refused persisted m
  · obtain ⟨reason, hraised⟩ : ∃ reason, recordGraded rc setup persisted
        (grade rc.toGrading plan persisted m now) m.reproductionInputs files =
          .error (.refused reason) files := recordGraded_refused hg hm hpath hrefused
    have hprose : strip ("the run was refused after the protected handoff: " ++
        rc.refusalText reason) ≠ "" := strip_append_ne ⟨'t', by decide +kernel, by decide⟩
    obtain ⟨o, ho, hconcludes⟩ := concludes_failed hg hprose (concluded_refused hraised).2.2
    exact ⟨o, [], hconcludes, fun _ => ⟨ho, rfl⟩, fun hno => absurd hrefused hno⟩
  · obtain ⟨o, ho⟩ : ∃ o, grade rc.toGrading plan persisted m now = .ok o :=
      grade_total hg hm (fun hu => hrefused (.inl hu)) hpath
    refine ⟨o, m.reproductionInputs, ?_, fun h => absurd h hrefused, fun _ => ⟨ho, rfl⟩⟩
    unfold Concludes; rw [concluded_recorded ho fun h => hrefused (.inr h)]
    exact record_returns

theorem handoff_gradable {r : Readings}
    {datasets : List DatasetSnapshot} {path : Promotion.ExecutionPath} {pathDependent : Bool}
    {tests : List ArtifactTest} {costs : List String} {t t' : Core.Session RegistryStore}
    (hplan : compileExperiment r registration datasets path pathDependent tests = .ok plan)
    (h : handoff r plan registration costs now t = .ok (persisted, access) t') :
    (∀ probe ∈ plan.probes, strip probe = probe) ∧
      plan.validationCampaignId = campaignId r persisted.draft := by
  constructor
  · obtain ⟨⟨test, rfl⟩, _⟩ := compileExperiment_ok r hplan
    have hall : ∀ probe ∈ requiredProbes ++ [generalityProbe], strip probe = probe := by
      decide +kernel
    intro probe hprobe
    refine hall probe (List.mem_append.2 ((List.mem_append.1 hprobe).imp id fun hg => ?_))
    split at hg
    · exact hg
    · cases hg
  · obtain ⟨_, _, hbind⟩ := preflight_ok (handoff_ok h).1
    unfold bindCampaignToData at hbind; split at hbind
    · cases hbind
    · next hsame => exact not_not.1 hsame

/-- **Recorded runs.** Past the handoff of a compiled plan, for whatever the measurement returns
or raises: the session, and so the consumption, stays as the handoff left it; no refusal leaves
the run; what it returns is written, has one outcome for each planned artifact test, and
survives exactly on the frozen terms, which scenario results only tighten. An exception and a
refused output are failures, an output that validates is graded, and each is returned just when
its bundle can be recorded. -/
theorem run_recorded {registration : Registration} {datasets : List DatasetSnapshot}
    {path : Promotion.ExecutionPath} {pathDependent : Bool} {tests : List ArtifactTest}
    {b : Bench} {access : ProtectedAccess} {s : Core.Session RegistryStore}
    (hplan : compileExperiment rc.toReadings registration datasets path pathDependent tests =
      .ok plan)
    (h : handoff rc.toReadings plan registration (setup.appliedCosts.map (·.1)) now b.session =
      .ok (persisted, access) s) (measurement : Measurement) :
    (after (run rc setup plan registration measurement now) b).session = s ∧
    (∀ e b', run rc setup plan registration measurement now b = .error e b' → Breaks e) ∧
    (∀ result b', run rc setup plan registration measurement now b = .ok result b' →
      Written rc result b'.files ∧ result.outcome.artifactOutcomes.map (·.testId) =
        plan.artifactTests.map (testId rc.toReadings) ∧
      (result.outcome.verdict = .survived ↔ ∃ m, measurement plan access = .ok m ∧
        ¬ Refused persisted m ∧ Survives rc.toGrading plan persisted m) ∧
      ∀ m, measurement plan access = .ok m → ¬ Cleared plan m →
        result.outcome.verdict ≠ .survived) ∧
    ((∀ c ∈ persisted.draft.validationCampaign, FrozenCampaign rc.toGrading c) →
      0 < (rc.claim persisted).luckThresholdZ →
      (∀ error, measurement plan access = .error error → ∃ o, o.verdict = .failed ∧
        ((∃ result b', run rc setup plan registration measurement now b = .ok result b' ∧
          result.outcome = o) ↔ Recordable rc setup persisted o [] b.files)) ∧
      ∀ m, measurement plan access = .ok m → WellFormed m →
        ((∀ probe ∈ plan.probes, probe ∈ m.probesRun) → Cleared plan m →
          plan.executionPath = .productionEngine) → ∃ o inputs,
          ((∃ result b', run rc setup plan registration measurement now b = .ok result b' ∧
            result.outcome = o) ↔ Recordable rc setup persisted o inputs b.files) ∧
          (Refused persisted m → o.verdict = .failed ∧ inputs = []) ∧
          (¬ Refused persisted m → grade rc.toGrading plan persisted m now = .ok o ∧
            inputs = m.reproductionInputs)) := by
  have hrun : run rc setup plan registration measurement now b =
      match concluded rc setup plan persisted now (measurement plan access) b.files with
      | .ok result files => .ok result ⟨s, files⟩
      | .error e files => .error e ⟨s, files⟩ := run_handed h
  have hreturns : ∀ o, (∃ result b', run rc setup plan registration measurement now b =
      .ok result b' ∧ result.outcome = o) ↔
      ∃ result files', concluded rc setup plan persisted now (measurement plan access) b.files =
        .ok result files' ∧ result.outcome = o := by
    intro o; rw [hrun]
    cases hconcluded : concluded rc setup plan persisted now (measurement plan access) b.files with
    | ok result files' =>
      constructor
      · intro ⟨result', b', heq, ho⟩; cases heq; exact ⟨result, files', rfl, ho⟩
      · intro ⟨result', files'', heq, ho⟩; cases heq; exact ⟨result, _, rfl, ho⟩
    | error e files' =>
      exact ⟨fun ⟨_, _, heq, _⟩ => (by cases heq), fun ⟨_, _, heq, _⟩ => (by cases heq)⟩
  obtain ⟨hstripped, hbound⟩ := handoff_gradable hplan h
  refine ⟨?_, fun e b' he => ?_, fun result b' hok => ?_, fun hfrozen hbar => ⟨?_, ?_⟩⟩
  · unfold after; rw [hrun]
    cases concluded rc setup plan persisted now (measurement plan access) b.files <;> rfl
  · rw [hrun] at he
    cases hconcluded : concluded rc setup plan persisted now (measurement plan access) b.files with
    | ok result files' =>
      rw [hconcluded] at he; cases he
    | error e' files' =>
      rw [hconcluded] at he; cases he; exact concluded_error hconcluded
  · rw [hrun] at hok
    cases hconcluded : concluded rc setup plan persisted now (measurement plan access) b.files with
    | error e' files' =>
      rw [hconcluded] at hok; cases hok
    | ok result' files' =>
      rw [hconcluded] at hok; cases hok
      obtain ⟨hwritten, hartifacts, hsurvived⟩ := concluded_ok hconcluded
      refine ⟨hwritten, hartifacts, hsurvived, fun m hm hnot hv => ?_⟩
      obtain ⟨m', hm', _, hsurvives⟩ := hsurvived.1 hv; rw [hm] at hm'
      cases hm'; exact hnot hsurvives.cleared
  · intro error herror
    obtain ⟨o, hfailed, hconcludes⟩ : ∃ o, o.verdict = .failed ∧
        Concludes rc setup plan persisted now (.error error) b.files o [] :=
      concludes_error ⟨hstripped, hbound, hfrozen, hbar⟩ error
    refine ⟨o, hfailed, (hreturns o).trans ?_⟩; rw [herror]; exact hconcludes
  · intro m hm hwellFormed hpath
    obtain ⟨o, inputs, hconcludes, hrefused, hgraded⟩ : ∃ o inputs,
        Concludes rc setup plan persisted now (.ok m) b.files o inputs ∧
          (Refused persisted m → o.verdict = .failed ∧ inputs = []) ∧
          (¬ Refused persisted m → grade rc.toGrading plan persisted m now = .ok o ∧
            inputs = m.reproductionInputs) :=
      concludes_ok ⟨hstripped, hbound, hfrozen, hbar⟩ hwellFormed hpath
    refine ⟨o, inputs, (hreturns o).trans ?_, hrefused, hgraded⟩; rw [hm]
    exact hconcludes

end recorded

/-! ## Concrete runs -/

/-- Digests of one width, and nothing that looks like a credential. -/
def plainRecording : Recording where
  toReadings := { plainReadings with contentId := fun _ => "".pushn 'a' 64 }
  maximumUnderpoweredFraction _ := 0
  str q := toString q.num ++ "/" ++ toString q.den
  looksLikeCredential _ := false
  sha256 text := text.pushn 'b' 64
  utf8Length := String.length
  refusalText _ := "refused"
  experimentId _ := "e"
  dataHash := "".intercalate
  outcomeJson o := o.detail
  canonicalJson m := m.experimentId

/-- A snapshot of the held out days with its lineage. -/
def lineaged : DatasetSnapshot :=
  { pulled 10 "" with
    provider := "sip"
    retrievedAt := some 0
    transformationVersion := "1" }

def plainSetup : RunSetup where
  provenance := ⟨"c0ffee", []⟩
  appliedCosts := [("slippage_bps", "1"), ("commission_per_order", "0")]
  design :=
    { walkForwardSplits := [("first", 0, 5)]
      neighborhoodGrid := [("trend_period", [150, 200])]
      ablations := []
      split := by simp
      swept := by simp
      unique := List.nodup_nil }

def recordedPlan : ExperimentPlan :=
  planOf plainRecording.toReadings heldOut [lineaged] .productionEngine [] .pairedT

/-- The claim is registered, and nothing is recorded yet. -/
def plainBench : Bench where
  session := Core.Session.fresh (after (immediate
    ((Call.register heldOut.draft (cleared "H1" 1) 0).run plainRecording.contentId)) {})
  files := .empty

/-- Every probe ran and the statistic clears the bar of three. -/
def favourable : Measured where
  testStatistic := some (.finite 4)
  probesRun := requiredProbes

theorem recordedPlan_compiled :
    compileExperiment plainRecording.toReadings heldOut [lineaged] .productionEngine false [] =
      .ok recordedPlan := by decide

theorem plainBench_handed : Returns (handoff plainRecording.toReadings recordedPlan heldOut
    (plainSetup.appliedCosts.map (·.1)) 5) plainBench.session (heldOut, tokenAt 5) := by
  decide

/-- A survivor, with its bundle. -/
theorem run_recorded_survivor : ∃ result b',
    run plainRecording plainSetup recordedPlan heldOut (fun _ _ => .ok favourable) 5 plainBench =
      .ok result b' ∧
    result.outcome.verdict = .survived ∧ Written plainRecording result b'.files := by
  obtain ⟨s, hs⟩ := plainBench_handed
  have hrun : (match run plainRecording plainSetup recordedPlan heldOut
      (fun _ _ => .ok favourable) 5 plainBench with
    | .ok result _ => decide (result.outcome.verdict = .survived)
    | .error _ _ => false) = true := by decide +kernel
  have hrecorded := (run_recorded recordedPlan_compiled hs fun _ _ => .ok favourable).2.2.1
  cases hx : run plainRecording plainSetup recordedPlan heldOut (fun _ _ => .ok favourable) 5
      plainBench with
  | ok result b' =>
    rw [hx] at hrun
    exact ⟨result, b', rfl, of_decide_eq_true hrun, (hrecorded result b' hx).1⟩
  | error e b' =>
    rw [hx] at hrun; cases hrun

/-- A measurement that names a blank probe: the holdout is read and there is no bundle. -/
theorem run_unrecorded :
    compileExperiment plainRecording.toReadings heldOut [lineaged] .productionEngine false [] =
      .ok recordedPlan ∧
    Returns (handoff plainRecording.toReadings recordedPlan heldOut
      (plainSetup.appliedCosts.map (·.1)) 5) plainBench.session (heldOut, tokenAt 5) ∧
    ∃ b', run plainRecording plainSetup recordedPlan heldOut
        (fun _ _ => .ok { favourable with probesRun := "" :: requiredProbes }) 5 plainBench =
      .error .validation b' ∧ b'.files.rows = [] := by
  refine ⟨recordedPlan_compiled, plainBench_handed, ?_⟩
  have hrun : (match run plainRecording plainSetup recordedPlan heldOut
      (fun _ _ => .ok { favourable with probesRun := "" :: requiredProbes }) 5 plainBench with
    | .ok _ _ => false
    | .error e b' => decide (e = .validation ∧ b'.files.rows = [])) = true := by decide
  cases hx : run plainRecording plainSetup recordedPlan heldOut
      (fun _ _ => .ok { favourable with probesRun := "" :: requiredProbes }) 5 plainBench with
  | ok result b' =>
    rw [hx] at hrun
    cases hrun
  | error e b' =>
    rw [hx] at hrun
    obtain ⟨rfl, hfiles⟩ := of_decide_eq_true hrun
    exact ⟨b', rfl, hfiles⟩

end Quantbot.L3.Experiment
