import Mathlib.Data.List.Dedup
import Quantbot.Core.StoredTime
import Quantbot.Core.Table
import Quantbot.Core.Txn

/-!
# Research memory

`research/memory.py`: records of what is known, what a run established about the components
and relationships of a registered graph, and the power assessments the registry keeps of each
hypothesis version. A finding that refutes is not filed while an assessment says that its
version was never tested.

What the registry holds of a hypothesis, an artifact test or a window is given with the run
that is projected; `benchmark`, `regime` and the like are the texts the source copies.
-/
namespace Quantbot.L3.Memory

open Core Txn

/-! ## Records -/

inductive RecordKind | finding | structuralLimit | analysisDefect | summary
deriving DecidableEq, Repr

inductive Verdict
  | refuted | survived | underpowered | uneconomic | exploratoryOnly | literatureSupported
  | literatureRefuted | impossible
deriving DecidableEq, Repr

def Verdict.value : Verdict → String
  | refuted => "REFUTED"
  | survived => "SURVIVED"
  | underpowered => "UNDERPOWERED"
  | uneconomic => "UNECONOMIC"
  | exploratoryOnly => "EXPLORATORY_ONLY"
  | literatureSupported => "LITERATURE_SUPPORTED"
  | literatureRefuted => "LITERATURE_REFUTED"
  | impossible => "IMPOSSIBLE"

/-- `REFUTING`. -/
def Verdict.refuting (v : Verdict) : Bool := v = refuted ∨ v = literatureRefuted ∨ v = impossible

/-- mirrors memory.py:130-161 -/
structure ResearchRecord where
  recordId : String
  kind : RecordKind
  subject : String
  statement : String
  verdict : Option Verdict
  /-- Id and version, both or neither. -/
  hypothesis : Option (String × Nat)
  evidenceHash : Option String
  source : String
  curated : Bool
  recordedAt : Int
  detail : List (String × String) := []
  numbered : ∀ h ∈ hypothesis, 1 ≤ h.2
  found : kind = .finding → verdict ≠ none
  limited : kind = .structuralLimit → curated = true
  derived : kind = .summary → verdict = none
deriving DecidableEq

/-! ## Power assessments -/

/-- mirrors power.py:96-104 -/
inductive PowerVerdict | powered | underpowered | uneconomic | overridden
deriving DecidableEq, Repr

def PowerVerdict.value : PowerVerdict → String
  | powered => "POWERED"
  | underpowered => "UNDERPOWERED"
  | uneconomic => "UNECONOMIC"
  | overridden => "OVERRIDDEN"

/-- `NOT_TESTED`, by value. -/
def PowerVerdict.notTested (v : PowerVerdict) : Bool := v = underpowered ∨ v = uneconomic

/-- One row of `power_assessments`; `document` is everything but what is read here. -/
structure PowerAssessment where
  hypothesisId : String
  version : Nat
  verdict : PowerVerdict
  document : String := ""
deriving DecidableEq, Repr

/-! ## Evidence about artifacts -/

/-- mirrors hypothesis_graph.py:144-146 -/
inductive GraphArtifactKind | component | relationship
deriving DecidableEq, Repr

inductive ArtifactEvidenceStatus | directlyMeasured | contextualAssociation | unassessed
deriving DecidableEq, Repr

structure DatasetSnapshot where
  dataset : String
  role : String
  snapshot : String := ""
deriving DecidableEq, Repr

structure EvidenceFields where
  sourceRecordId : String
  testId : Option String := none
  artifactKind : GraphArtifactKind
  artifactContentId : String
  epistemicStatus : ArtifactEvidenceStatus
  verdict : Option Verdict := none
  hypothesisId : String
  hypothesisVersion : Nat
  registrationHash : String
  graphHash : String
  experimentId : String
  manifestHash : String
  datasets : List DatasetSnapshot
  estimand : String
  benchmark : String
  universe_ : List String
  regime : String
  code : String
  configurationHash : String
  cumulativeTrials : Nat
  effect : String := ""
  confidenceLow : String := ""
  confidenceHigh : String := ""
  testStatistic : String := ""
  recordedAt : Int
deriving DecidableEq, Repr

/-- Only what was measured carries a verdict, and only a test that was registered is named.
mirrors memory.py:172-221 -/
structure ArtifactEvidence extends EvidenceFields where
  direct : epistemicStatus = .directlyMeasured ↔ verdict.isSome = true
  contextual : epistemicStatus = .contextualAssociation ↔ testId = none
  measured : ∀ v ∈ verdict, v = .survived ∨ v = .refuted ∨ v = .underpowered
deriving DecidableEq

/-- `MemoryError_` with its text, or a value its model refuses. -/
inductive MemoryError
  | corrupt (text : String)
  | validation
deriving DecidableEq, Repr

def EvidenceFields.validate (f : EvidenceFields) : Except MemoryError ArtifactEvidence :=
  if h : (f.epistemicStatus = .directlyMeasured ↔ f.verdict.isSome = true) ∧
      (f.epistemicStatus = .contextualAssociation ↔ f.testId = none) ∧
      ∀ v ∈ f.verdict, v = .survived ∨ v = .refuted ∨ v = .underpowered then
    .ok ⟨f, h.1, h.2.1, h.2.2⟩
  else .error .validation

theorem EvidenceFields.validate_ok {f : EvidenceFields} {e : ArtifactEvidence}
    (h : f.validate = .ok e) : e.toEvidenceFields = f := by
  unfold EvidenceFields.validate at h; split at h
  · cases h; rfl
  · cases h

/-- A stored row, under the content id of the evidence. -/
structure EvidenceRow where
  evidenceId : String
  evidence : ArtifactEvidence
deriving DecidableEq

structure MemoryStore where
  records : Table ResearchRecord (·.recordId) := .empty
  assessments : List PowerAssessment := []
  evidence : Table EvidenceRow (·.evidenceId) := .empty
deriving DecidableEq

abbrev MemoryTxn := Txn MemoryStore MemoryError

/-! ## Filing a record -/

/-- mirrors registry.py:1471-1485 -/
def listAssessments (s : MemoryStore) (hypothesisId : String) (version : Nat) :
    List PowerAssessment :=
  s.assessments.filter fun a => a.hypothesisId = hypothesisId ∧ a.version = version

/-- Append-only, whether the assessment passed or refused.
mirrors registry.py:1446-1469 -/
def recordAssessment (a : PowerAssessment) : MemoryTxn PUnit :=
  modify fun s => { s with assessments := s.assessments ++ [a] }

/-- What keeps a version from being refuted: the last assessment that it was never tested.
mirrors memory.py:273-293 -/
def untested (s : MemoryStore) (entry : ResearchRecord) : Option PowerAssessment := do
  let h ← entry.hypothesis
  ((listAssessments s h.1 h.2).filter fun a => a.verdict.notTested).getLast?

/-- True when the record is new; an exact repeat is accepted.
mirrors memory.py:247-271 -/
def record (entry : ResearchRecord) : MemoryTxn Bool := fun s =>
  match s.records.get? entry.recordId with
  | some existing =>
    if existing = entry then .ok false s
    else .error (.corrupt ("record " ++ entry.recordId ++
      " already exists with different content")) s
  | none =>
    match if entry.kind = .finding ∧ entry.verdict = some .refuted then untested s entry
        else none with
    | some blocking => .error (.corrupt (blocking.hypothesisId ++ " v" ++
        toString blocking.version ++ " is " ++ blocking.verdict.value ++ ", which means it was " ++
        "never tested; record it as that verdict rather than as REFUTED")) s
    | none => .ok true { s with records := s.records.insert entry }

/-- mirrors memory.py:637-651 -/
def findingsFor (s : MemoryStore) (hypothesisId : String) : List ResearchRecord :=
  (s.records.rows.filter fun r => r.hypothesis.any fun h => h.1 = hypothesisId).insertionSort
    fun a b => textRank a.recordedAt < textRank b.recordedAt ∨
      textRank a.recordedAt = textRank b.recordedAt ∧ a.recordId ≤ b.recordId

/-- mirrors memory.py:653-664 -/
def refutationsOf (s : MemoryStore) (hypothesisId : String) : List ResearchRecord :=
  (findingsFor s hypothesisId).filter fun r => r.kind = .finding ∧ r.verdict.any (·.refuting)

/-! ## A run and what it is checked against -/

inductive ArtifactOutcomeVerdict | survived | refuted | underpowered | unassessed
deriving DecidableEq, Repr

def ArtifactOutcomeVerdict.value : ArtifactOutcomeVerdict → String
  | survived => "SURVIVED"
  | refuted => "REFUTED"
  | underpowered => "UNDERPOWERED"
  | unassessed => "UNASSESSED"

/-- `verdicts.get(outcome.verdict)`. -/
def ArtifactOutcomeVerdict.verdict? : ArtifactOutcomeVerdict → Option Verdict
  | survived => some .survived
  | refuted => some .refuted
  | underpowered => some .underpowered
  | unassessed => none

/-- mirrors artifact_testing.py:147-161 -/
structure ArtifactOutcome where
  testId : String
  testRegistrationHash : String
  artifactKind : GraphArtifactKind
  artifactContentId : String
  verdict : ArtifactOutcomeVerdict
  effect : String := ""
  confidenceLow : String := ""
  confidenceHigh : String := ""
  testStatistic : String := ""
  probesRun : List String := []
  probesFailed : List String := []
  detail : String
deriving DecidableEq

/-- The entry a manifest holds of an outcome. -/
structure ArtifactResult where
  testRegistrationHash : String
  artifactKind : GraphArtifactKind
  artifactContentId : String
  verdict : String
  effect : String
  confidenceLow : String
  confidenceHigh : String
  testStatistic : String
  probesRun : String
  probesFailed : String
  detail : String
deriving DecidableEq

def ArtifactOutcome.expected (o : ArtifactOutcome) : ArtifactResult where
  testRegistrationHash := o.testRegistrationHash
  artifactKind := o.artifactKind
  artifactContentId := o.artifactContentId
  verdict := o.verdict.value
  effect := o.effect
  confidenceLow := o.confidenceLow
  confidenceHigh := o.confidenceHigh
  testStatistic := o.testStatistic
  probesRun := ", ".intercalate o.probesRun
  probesFailed := ", ".intercalate o.probesFailed
  detail := o.detail

/-- What of the manifest is read (research/manifest.py:352-418). -/
structure ExperimentManifest where
  confirmatory : Bool
  manifestHash : String
  hypothesis : Option (String × Nat)
  registrationHash : String
  hypothesisGraphHash : String
  experimentId : String
  configurationHash : String
  code : Option String
  datasets : List DatasetSnapshot
  /-- `results["artifact:.."]`, by test. -/
  results : List (String × ArtifactResult)
deriving DecidableEq

structure HypothesisGraph where
  graphId : String
  componentIds : List String
  relationshipIds : List String
deriving DecidableEq

/-- mirrors hypothesis_graph.py:204-210 -/
def HypothesisGraph.artifactIds (g : HypothesisGraph) : GraphArtifactKind → List String
  | .component => g.componentIds.dedup
  | .relationship => g.relationshipIds.dedup

/-- A frozen registration, as far as evidence copies it. -/
structure Registration where
  contentHash : String
  graph : Option HypothesisGraph
  primaryEstimand : String
  universe_ : List String
  confounders : List String
  cumulativeTrials : Nat
deriving DecidableEq

/-- A frozen artifact test (research/artifact_testing.py:106-140). -/
structure ArtifactTestRegistration where
  testId : String
  contentHash : String
  hypothesisId : String
  hypothesisVersion : Nat
  registrationHash : String
  graphHash : String
  artifactKind : GraphArtifactKind
  artifactContentId : String
  estimand : String
  benchmark : String
  regime : String
  cumulativeTrials : Nat
deriving DecidableEq

/-- What the registry answers. -/
structure RegistryView where
  registration : String → Nat → Option Registration
  artifactTest : String → Option ArtifactTestRegistration
  windowState : String → Nat → String → String → Option String

/-- `persisted`: the file at the manifest's path holds exactly its canonical text. -/
structure RunResult where
  manifest : ExperimentManifest
  persisted : Bool
  plannedTests : List String
  artifactOutcomes : List ArtifactOutcome

def refuseUnless (c : Prop) [Decidable c] (text : String) : Except MemoryError PUnit :=
  if c then .ok ⟨⟩ else .error (.corrupt text)

@[simp] theorem refuseUnless_ok {c : Prop} [Decidable c] {text : String} {u : PUnit} :
    refuseUnless c text = .ok u ↔ c := by
  unfold refuseUnless; split <;> simp_all

/-- A value a pure check answers, or its refusal. -/
def lift {α : Type} (x : Except MemoryError α) : MemoryTxn α := fun s =>
  match x with
  | .ok a => .ok a s
  | .error e => .error e s

@[simp] theorem lift_ok {α : Type} {x : Except MemoryError α} {s s' : MemoryStore} {a : α} :
    lift x s = .ok a s' ↔ x = .ok a ∧ s' = s := by
  unfold lift; cases x <;> simp [eq_comm]

/-- mirrors memory.py:489-510 -/
def verifyConsumedDatasets (v : RegistryView) (h : String × Nat) (datasets : List DatasetSnapshot) :
    Except MemoryError PUnit := do
  let guarded := datasets.filter fun d => d.role = "PROTECTED_EVALUATION"
  refuseUnless (guarded ≠ []) "artifact evidence names no protected evaluation data"
  refuseUnless (∀ d ∈ guarded, v.windowState h.1 h.2 d.dataset d.role = some "CONSUMED")
    "a dataset was not durably consumed by the experiment"

/-- The registered claim a run is about.
mirrors memory.py:325-350 -/
def verifiedRun (v : RegistryView) (r : RunResult) (source : ResearchRecord) :
    Except MemoryError ((String × Nat) × Registration × HypothesisGraph × String) := do
  let m := r.manifest
  refuseUnless m.confirmatory "exploratory output cannot become confirmatory artifact evidence"
  refuseUnless r.persisted "artifact evidence requires the exact persisted manifest"
  refuseUnless (source.evidenceHash = some m.manifestHash)
    "source research record does not cite this manifest"
  refuseUnless (source.hypothesis = m.hypothesis)
    "source research record does not name this hypothesis version"
  match m.hypothesis with
  | none => .error (.corrupt "artifact evidence requires a registered hypothesis")
  | some h =>
    match v.registration h.1 h.2 with
    | none => .error (.corrupt "manifest does not match the persisted hypothesis registration")
    | some registration => do
      refuseUnless (registration.contentHash = m.registrationHash)
        "manifest does not match the persisted hypothesis registration"
      match registration.graph, m.code with
      | none, _ => .error (.corrupt "manifest does not match the registered component graph")
      | some graph, code => do
        refuseUnless (graph.graphId = m.hypothesisGraphHash)
          "manifest does not match the registered component graph"
        match code with
        | none => .error (.corrupt "artifact evidence requires exact code provenance")
        | some code => do
          verifyConsumedDatasets v h m.datasets
          pure (h, registration, graph, code)

/-! ## Storing evidence -/

variable (contentId : ArtifactEvidence → String)

/-- mirrors memory.py:512-535 -/
def storeArtifactEvidence (entry : ArtifactEvidence) : MemoryTxn ArtifactEvidence := fun s =>
  match s.evidence.get? (contentId entry) with
  | some existing =>
    if existing.evidence = entry then .ok existing.evidence s
    else .error (.corrupt ("artifact evidence " ++ contentId entry ++ " changed content")) s
  | none => .ok entry { s with evidence := s.evidence.insert ⟨contentId entry, entry⟩ }

/-- An appearance of an artifact no planned test reported on: no verdict.
mirrors memory.py:362-391 -/
def contextualFields (m : ExperimentManifest) (h : String × Nat) (registration : Registration)
    (graph : HypothesisGraph) (code : String) (source : ResearchRecord)
    (kind : GraphArtifactKind) (artifactId : String) : EvidenceFields where
  sourceRecordId := source.recordId
  artifactKind := kind
  artifactContentId := artifactId
  epistemicStatus := .contextualAssociation
  hypothesisId := h.1
  hypothesisVersion := h.2
  registrationHash := registration.contentHash
  graphHash := graph.graphId
  experimentId := m.experimentId
  manifestHash := m.manifestHash
  datasets := m.datasets
  estimand := registration.primaryEstimand
  benchmark := registration.primaryEstimand
  universe_ := registration.universe_
  regime := "all registered observations; confounders: " ++ "; ".intercalate registration.confounders
  code := code
  configurationHash := m.configurationHash
  cumulativeTrials := registration.cumulativeTrials
  recordedAt := source.recordedAt

/-- The evidence of an outcome, once it is what its preregistered test and the manifest say.
mirrors memory.py:406-487 -/
def evidenceOfOutcome (v : RegistryView) (m : ExperimentManifest) (registration : Registration)
    (graph : HypothesisGraph) (code : String) (source : ResearchRecord) (o : ArtifactOutcome) : Except MemoryError ArtifactEvidence :=
  match v.artifactTest o.testId with
  | none => .error (.corrupt "artifact outcome does not match its preregistered test")
  | some test => do
    refuseUnless (test.contentHash = o.testRegistrationHash)
      "artifact outcome does not match its preregistered test"
    refuseUnless (some (test.hypothesisId, test.hypothesisVersion) = m.hypothesis ∧
      test.registrationHash = registration.contentHash ∧ test.graphHash = graph.graphId)
      "artifact test belongs to a different hypothesis graph"
    refuseUnless (o.artifactKind = test.artifactKind ∧
      o.artifactContentId = test.artifactContentId)
      "artifact outcome target differs from its preregistered test"
    refuseUnless (m.results.lookup o.testId = some o.expected)
      "artifact outcome differs from the persisted manifest"
    EvidenceFields.validate
      { sourceRecordId := source.recordId
        testId := some test.testId
        artifactKind := test.artifactKind
        artifactContentId := test.artifactContentId
        epistemicStatus := if o.verdict.verdict?.isSome then .directlyMeasured else .unassessed
        verdict := o.verdict.verdict?
        hypothesisId := test.hypothesisId
        hypothesisVersion := test.hypothesisVersion
        registrationHash := registration.contentHash
        graphHash := graph.graphId
        experimentId := m.experimentId
        manifestHash := m.manifestHash
        datasets := m.datasets
        estimand := test.estimand
        benchmark := test.benchmark
        universe_ := registration.universe_
        regime := test.regime
        code := code
        configurationHash := m.configurationHash
        cumulativeTrials := test.cumulativeTrials
        effect := o.effect
        confidenceLow := o.confidenceLow
        confidenceHigh := o.confidenceHigh
        testStatistic := o.testStatistic
        recordedAt := source.recordedAt }

/-- One row to store: an artifact, and the outcome that reports on it if there is one. -/
structure Item where
  kind : GraphArtifactKind
  artifactId : String
  outcome : Option ArtifactOutcome

/-- An artifact is stored once for each outcome that names it, or as an appearance. -/
def itemsOf (outcomes : List ArtifactOutcome) (kind : GraphArtifactKind) (artifactId : String) :
    List Item :=
  match outcomes.filter fun o => o.artifactKind = kind ∧ o.artifactContentId = artifactId with
  | [] => [⟨kind, artifactId, none⟩]
  | named => named.map fun o => ⟨kind, artifactId, some o⟩

def evidenceOfItem (v : RegistryView) (m : ExperimentManifest) (h : String × Nat)
    (registration : Registration) (graph : HypothesisGraph) (code : String)
    (source : ResearchRecord) (i : Item) : Except MemoryError ArtifactEvidence :=
  match i.outcome with
  | none => (contextualFields m h registration graph code source i.kind i.artifactId).validate
  | some o => evidenceOfOutcome v m registration graph code source o

def storeItems (evidenceOf : Item → Except MemoryError ArtifactEvidence) :
    List Item → MemoryTxn (List ArtifactEvidence)
  | [] => pure []
  | i :: rest => do
    let entry ← lift (evidenceOf i)
    let stored ← storeArtifactEvidence contentId entry
    let others ← storeItems evidenceOf rest
    pure (stored :: others)

/-- `for kind in GraphArtifactKind: for id in sorted(graph.artifact_ids(kind))`. -/
def HypothesisGraph.items (g : HypothesisGraph) (outcomes : List ArtifactOutcome) : List Item :=
  [GraphArtifactKind.component, .relationship].flatMap fun kind =>
    ((g.artifactIds kind).insertionSort (· ≤ ·)).flatMap fun a => itemsOf outcomes kind a

/-- mirrors memory.py:307-404 -/
def recordRunArtifacts (v : RegistryView) (r : RunResult) (source : ResearchRecord) :
    MemoryTxn (List ArtifactEvidence) := do
  let (h, registration, graph, code) ← lift (verifiedRun v r source)
  let _ ← record source
  lift (refuseUnless (∀ o ∈ r.artifactOutcomes, o.testId ∈ r.plannedTests)
    "artifact outcome was not part of the compiled experiment plan")
  storeItems contentId (evidenceOfItem v r.manifest h registration graph code source)
    (graph.items r.artifactOutcomes)

/-! ## Retrieval -/

/-- mirrors memory.py:549-563 -/
def evidenceForArtifact (s : MemoryStore) (artifactContentId : String)
    (kind : Option GraphArtifactKind) : List ArtifactEvidence :=
  ((s.evidence.rows.filter fun row => row.evidence.artifactContentId = artifactContentId ∧
    ∀ k ∈ kind, row.evidence.artifactKind = k).insertionSort fun a b =>
      textRank a.evidence.recordedAt < textRank b.evidence.recordedAt ∨
      textRank a.evidence.recordedAt = textRank b.evidence.recordedAt ∧
        a.evidenceId ≤ b.evidenceId).map (·.evidence)

structure ArtifactEvidenceSummary where
  supporting : List ArtifactEvidence
  refuting : List ArtifactEvidence
  underpowered : List ArtifactEvidence
  contextual : List ArtifactEvidence
  unassessed : List ArtifactEvidence

/-- mirrors memory.py:565-583 -/
def summarizeArtifact (s : MemoryStore) (artifactContentId : String)
    (kind : Option GraphArtifactKind) : ArtifactEvidenceSummary :=
  let entries := evidenceForArtifact s artifactContentId kind
  { supporting := entries.filter fun e => e.verdict = some .survived
    refuting := entries.filter fun e => e.verdict = some .refuted
    underpowered := entries.filter fun e => e.verdict = some .underpowered
    contextual := entries.filter fun e => e.epistemicStatus = .contextualAssociation
    unassessed := entries.filter fun e => e.epistemicStatus = .unassessed }

/-- The buckets of a summary, in order. -/
def ArtifactEvidenceSummary.buckets (b : ArtifactEvidenceSummary) : List (List ArtifactEvidence) :=
  [b.supporting, b.refuting, b.underpowered, b.contextual, b.unassessed]

end Quantbot.L3.Memory
