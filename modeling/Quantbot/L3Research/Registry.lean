import Mathlib.Data.List.Dedup
import Quantbot.L3Research.Windows

/-!
# The hypothesis registry

`research/registry.py` and `research/intraday_accounting.py`: what a registration is judged
against and what it stores. The burden adds five ledgers: registrations, artifact tests,
campaign freezes, learner attempts and intraday attempts, the last less one for each
that a registration has already been charged for.

The critique, the lineage check, the novelty report and the power assessment are given
with each call. A row of a reserved namespace that is not what its writer writes stops
every count.
-/
namespace Quantbot.L3.Registry

open Core Txn L2

/-! ## Drafts -/

inductive SearchOrigin | noDataDependentSearch | operatorAttested | measured | legacySelfReported
deriving DecidableEq, Repr

/-- What a draft declares of its search, its windows and its campaign.
mirrors registry.py:317-443 -/
structure HypothesisDraft where
  hypothesisId : String
  version : Nat
  familyId : String
  windows : List DataWindow
  availableObservations : Nat
  searchCardinality : Nat
  searchOrigin : SearchOrigin
  searchAttestedBy : Option String
  searchRunId : Option String
  materiallyDifferent : Option String
  validationCampaign : Option ValidationCampaign
  /-- Every other field: question, prediction, graph, lineage, effect. -/
  document : String := ""
  version_pos : 1 ≤ version
  searched : 1 ≤ searchCardinality
  registrable : searchOrigin ≠ .legacySelfReported
  named : searchOrigin = .measured ↔ searchRunId.isSome = true
  attested : searchOrigin = .operatorAttested ↔ searchAttestedBy.isSome = true
  theory : searchOrigin = .noDataDependentSearch → searchCardinality = 1
  /-- One contiguous window per dataset and role. -/
  distinct : (windows.map fun w => (w.dataset, w.role)).Nodup
deriving DecidableEq

/-- mirrors registry.py:449-474 -/
structure Registration where
  draft : HypothesisDraft
  registeredAt : Int
  cumulativeTrials : Int
  sampleVerified : Bool
  reservedUntil : Int
deriving DecidableEq

/-- A row of `hypotheses` (storage/schema.py:314-363). -/
structure HypothesisRow where
  hypothesisId : String
  version : Nat
  contentHash : String
  searchCardinality : Nat
  searchOrigin : SearchOrigin
  cumulativeTrials : Int
  document : Registration
deriving DecidableEq

/-- What an artifact test freezes of its claim; `design` is its target and its arms. -/
structure ArtifactTest where
  hypothesisId : String
  hypothesisVersion : Nat
  registrationHash : String
  design : String
  registeredAt : Int
  cumulativeTrials : Int
deriving DecidableEq

/-- A row of `artifact_test_registrations` with its check (storage/schema.py:497-517). -/
structure ArtifactTestRow where
  testId : String
  contentHash : String
  trialCharge : Nat
  document : ArtifactTest
  one : trialCharge = 1
deriving DecidableEq

/-- The contents an id or a hash is taken of. -/
inductive Content
  | campaign (campaign : ValidationCampaign)
  | registration (registration : Registration)
  | artifactTest (test : ArtifactTest)
  | testId (hypothesisId : String) (version : Nat) (registrationHash design : String)
deriving DecidableEq

abbrev ContentId := Content → String

abbrev Hypotheses := UTable HypothesisRow (fun r => (r.hypothesisId, r.version)) (·.contentHash)

abbrev ArtifactTests := UTable ArtifactTestRow (·.testId) (·.contentHash)

structure RegistryStore where
  hypotheses : Hypotheses := .empty
  windows : Windows := .empty
  artifactTests : ArtifactTests := .empty
  searchRuns : SearchRuns := .empty
deriving DecidableEq

/-- A refusal, a `ValueError` of an intraday attempt, or a constraint of a table. -/
inductive RegistryError
  | refused (reason : RefusalReason)
  | malformed
  | integrity
deriving DecidableEq, Repr

abbrev RegistryTxn := Txn RegistryStore RegistryError

/-- `cycles 2-10`, spent before the registry (registry.py:122-139). -/
def priorTrials : Nat := 68

def reservationDays : Int := 90

/-- What a reader answers, or refuses with. -/
def reads {α : Type} (f : RegistryStore → Except RefusalReason α) : RegistryTxn α := fun s =>
  match f s with
  | .ok a => .ok a s
  | .error e => .error (.refused e) s

@[simp] theorem reads_ok {α : Type} {f : RegistryStore → Except RefusalReason α}
    {s s' : RegistryStore} {a : α} : reads f s = .ok a s' ↔ f s = .ok a ∧ s' = s := by
  unfold reads; cases f s <;> simp [eq_comm]

/-! ## Intraday attempts -/

def intradayNamespace : String := "intraday:"

def intradayDataset : String := "us-equities-daily"

/-- `re.fullmatch(r"intraday:[A-Za-z0-9][A-Za-z0-9_.:-]*", search_id)`, within 128 characters. -/
def intradayId (searchId : String) : Bool :=
  intradayNamespace.toList.isPrefixOf searchId.toList && searchId.length ≤ 128 &&
    match searchId.toList.drop intradayNamespace.length with
    | [] => false
    | c :: rest => c.isAlphanum && rest.all fun c => c.isAlphanum || "_.:-".toList.contains c

/-- mirrors intraday_accounting.py:27-51 -/
def intradayIdentity (searchId configurationHash dataset : String) (start finish : Int) :
    Option RowIdentity :=
  if intradayId searchId ∧ contentHash configurationHash ∧
      observationIdentity dataset = intradayDataset ∧ start ≤ finish then
    some
      { searchId := searchId
        actor := "intraday-research"
        actorVersion := "1"
        candidatesEvaluated := 1
        dataset := intradayDataset
        startDate := start
        endDate := finish
        dataRole := "DISCOVERY"
        configurationHash := configurationHash }
  else none

/-- mirrors intraday_accounting.py:58-74 -/
def verifyIntradayRow (r : SearchRun) : Bool :=
  match intradayIdentity r.searchId r.configurationHash r.dataset r.startDate r.endDate with
  | none => false
  | some identity => r.toRowIdentity = identity ∧
      r.detail = .intraday ⟨identity, "PRE_ENGINE"⟩ ∧ r.startedAt = r.finishedAt

/-- mirrors intraday_accounting.py:115-129 -/
def verifiedIntradayAttemptIds (rows : List SearchRun) : Except RefusalReason (List String) :=
  if (rowsIn intradayNamespace rows).all verifyIntradayRow then
    .ok ((rowsIn intradayNamespace rows).map (·.searchId))
  else .error .tampered

def insertSearchRun (r : SearchRun) : RegistryTxn PUnit := fun s =>
  if s.searchRuns.get? r.searchId = none ∧ r.Checked then
    .ok ⟨⟩ { s with searchRuns := s.searchRuns.insert r }
  else .error .integrity s

/-- Append one trial before measurement, once.
mirrors intraday_accounting.py:77-112 -/
def recordIntradayAttempt (searchId configurationHash dataset : String) (start finish now : Int) :
    RegistryTxn String :=
  match intradayIdentity searchId configurationHash dataset start finish with
  | none => throw .malformed
  | some identity => do
    let s ← get
    match s.searchRuns.get? searchId with
    | some existing =>
      require (verifyIntradayRow existing ∧ existing.toRowIdentity = identity) .malformed
      pure searchId
    | none =>
      insertSearchRun ⟨identity, now, now, .intraday ⟨identity, "PRE_ENGINE"⟩⟩
      pure searchId

/-! ## Campaigns -/

variable (contentId : ContentId)

def validationNamespace : String := "validation:"

def campaignActorVersion : String := "1"

/-- mirrors validation_campaign.py:348-356 -/
def selectionSearchId (c : ValidationCampaign) : String :=
  validationNamespace ++ contentId (.campaign c)

/-- `max(roles, key=_ROLE_PROTECTION_ORDER.index)`. -/
def mostProtected (roles : List String) : String :=
  if "FORWARD_PAPER" ∈ roles then "FORWARD_PAPER"
  else if "PROTECTED_EVALUATION" ∈ roles then "PROTECTED_EVALUATION"
  else "VALIDATION"

/-- mirrors registry.py:820-853 -/
def expectedCampaignRow (c : ValidationCampaign) : Except RefusalReason RowIdentity :=
  match (c.scenarios.map (·.dataset)).eraseDups with
  | [dataset] => .ok
      { searchId := selectionSearchId contentId c
        actor := "validation-campaign"
        actorVersion := campaignActorVersion
        candidatesEvaluated := 1
        dataset := dataset
        startDate := c.eligibleStart
        endDate := c.eligibleEnd
        dataRole := mostProtected (c.scenarios.map (·.dataRole))
        configurationHash := contentId (.campaign c) }
  | _ => .error .unverifiedSample

/-- Every consumed window row that overlaps a scenario.
mirrors registry.py:998-1020 -/
def consumedOverlaps (t : Windows) (c : ValidationCampaign) (dataset : String) : List WindowRow :=
  c.scenarios.flatMap fun scenario => t.rows.filter fun w =>
    w.dataset = dataset ∧ w.state = .consumed ∧ w.overlaps scenario.periodStart scenario.periodEnd

/-- The freeze came no later than any consumption it must precede.
mirrors registry.py:1058-1105 -/
def verifyPredatesConsumption (t : Windows) (c : ValidationCampaign) (r : SearchRun)
    (dataset : String) : Except RefusalReason PUnit :=
  match consumedOverlaps t c dataset with
  | [] => .ok ⟨⟩
  | overlaps =>
    if r.actorVersion = campaignActorVersion ∧ r.startedAt ≠ r.finishedAt then .error .tampered
    else if overlaps.all fun w => w.consumedAt.any fun consumed => r.finishedAt ≤ consumed then
      .ok ⟨⟩
    else .error .contaminatedWindow

/-- mirrors registry.py:855-917 -/
def verifyCampaignRow (t : Windows) (c : ValidationCampaign) (r : SearchRun)
    (expected : RowIdentity) : Except RefusalReason PUnit :=
  if r.toRowIdentity ≠ expected then .error .tampered
  else match r.detail with
    | .campaign stored =>
      if contentId (.campaign stored) ≠ contentId (.campaign c) then .error .tampered
      else verifyPredatesConsumption t c r expected.dataset
    | _ => .error .tampered

/-- mirrors registry.py:919-972 -/
def freezeValidationCampaign (c : ValidationCampaign) (now : Int) : RegistryTxn String := do
  let expected ← reads fun _ => expectedCampaignRow contentId c
  let s ← get
  match s.searchRuns.get? (selectionSearchId contentId c) with
  | some existing =>
    reads fun s => verifyCampaignRow contentId s.windows c existing expected
    pure (selectionSearchId contentId c)
  | none =>
    require (consumedOverlaps s.windows c expected.dataset = []) (.refused .contaminatedWindow)
    insertSearchRun ⟨expected, now, now, .campaign c⟩
    pure (selectionSearchId contentId c)

/-- The trial a row of the namespace stands for, when it is the record it claims to be.
mirrors registry.py:1107-1129, 1158-1163 -/
def campaignTrial (t : Windows) (r : SearchRun) : Except RefusalReason Nat :=
  match r.detail with
  | .campaign c =>
    if selectionSearchId contentId c ≠ r.searchId then .error .tampered
    else do
      let expected ← expectedCampaignRow contentId c
      verifyCampaignRow contentId t c r expected
      pure r.candidatesEvaluated
  | _ => .error .tampered

/-- The sum of a list, unless an entry refuses. -/
def sumOk {α : Type} (f : α → Except RefusalReason Nat) : List α → Except RefusalReason Nat
  | [] => .ok 0
  | a :: rest => do
    let n ← f a
    let m ← sumOk f rest
    pure (n + m)

/-- mirrors registry.py:1131-1164 -/
def campaignTrialsSpent (s : RegistryStore) : Except RefusalReason Nat :=
  sumOk (campaignTrial contentId s.windows) (rowsIn validationNamespace s.searchRuns.rows)

/-! ## The burden -/

/-- The prepaid attempts some registration has already been charged for.
mirrors registry.py:2012-2031 -/
def linkedAttempts (rows : List HypothesisRow) (prepaid : List String) :
    Except RefusalReason (List String) :=
  let measured := rows.filter fun r => r.searchOrigin = .measured
  if prepaid = [] then .ok []
  else if measured.all fun r => contentId (.registration r.document) = r.contentHash ∧
      r.document.draft.searchOrigin = r.searchOrigin ∧
      r.document.draft.searchCardinality = r.searchCardinality then
    .ok ((measured.filterMap fun r => r.document.draft.searchRunId).filter
      fun id => id ∈ prepaid).dedup
  else .error .tampered

/-- Whether an incoming registration was prepaid, by an attempt no other was charged for.
mirrors registry.py:2034-2038 -/
def incomingCredit (incoming : Option HypothesisDraft) (prepaid linked : List String) : Nat :=
  if ∃ d ∈ incoming, d.searchOrigin = .measured ∧
      ∃ id ∈ d.searchRunId, id ∈ prepaid ∧ id ∉ linked then 1 else 0

def hypothesisSpend (s : RegistryStore) : Nat :=
  (s.hypotheses.rows.map (·.searchCardinality)).sum

def artifactSpend (s : RegistryStore) : Nat := (s.artifactTests.rows.map (·.trialCharge)).sum

/-- Everything the project has ever spent, and what the incoming draft spends.
mirrors registry.py:1997-2048 -/
def cumulativeTrials (s : RegistryStore) (searchCardinality : Nat)
    (incoming : Option HypothesisDraft) : Except RefusalReason Int := do
  let prepaid ← verifiedIntradayAttemptIds s.searchRuns.rows
  let linked ← linkedAttempts contentId s.hypotheses.rows prepaid
  let campaigns ← campaignTrialsSpent contentId s
  match learnerTrialsSpent s.searchRuns.rows with
  | none => .error .tampered
  | some learners =>
    pure (priorTrials + hypothesisSpend s + artifactSpend s + campaigns + learners +
      ((prepaid.length : Int) - linked.length - incomingCredit incoming prepaid linked) +
      searchCardinality)

/-! ## Registration -/

structure ObservedSample where
  observations : Nat
  dataset : String
  start : Int
  finish : Int
deriving DecidableEq

/-- The count comes from a range the hypothesis declared.
mirrors registry.py:1859-1905 -/
def verifySampleAgainst (windows : List DataWindow) (o : ObservedSample) : Bool :=
  windows.any fun w => w.dataset = o.dataset ∧ w.start ≤ o.start ∧ o.finish ≤ w.finish

/-- A measured count is the one its record holds.
mirrors registry.py:1907-1940 -/
def verifyMeasuredSearch (s : RegistryStore) (d : HypothesisDraft) : Bool :=
  match d.searchRunId with
  | none => true
  | some id => ((s.searchRuns.get? id).map (·.candidatesEvaluated)) = some d.searchCardinality

/-- mirrors registry.py:1238-1267 -/
def verifyCampaignFrozen (s : RegistryStore) (d : HypothesisDraft) : Except RefusalReason PUnit :=
  match d.validationCampaign with
  | none => .ok ⟨⟩
  | some c => do
    let expected ← expectedCampaignRow contentId c
    match s.searchRuns.get? (selectionSearchId contentId c) with
    | none => .error .unverifiedSample
    | some r => verifyCampaignRow contentId s.windows c r expected

/-- Whether a protected window of the draft is claimed: a learner inspected the series, the
draft itself reads it as discovery or validation data, or another row holds the name.
mirrors registry.py:2117-2151 -/
def contaminated (s : RegistryStore) (d : HypothesisDraft) (today : Int) : Bool :=
  (d.windows.filter fun w => w.role = .protectedEvaluation).any fun w =>
    ((learnerRows s.searchRuns.rows).any fun r =>
      r.dataset ∈ aliases w.dataset ∧ r.startDate ≤ w.finish ∧ w.start ≤ r.endDate) ||
    (d.windows.any fun o => (o.role = .discovery ∨ o.role = .validation) ∧
      o.dataset = w.dataset ∧ w.start ≤ o.finish ∧ o.start ≤ w.finish) ||
    !(rivals s.windows d.hypothesisId w.dataset w.start w.finish today).isEmpty

/-- What a call of `register` is given besides the draft: the critique, and the answers of the
lineage check, the novelty report and the power assessment of a burden and a sample. -/
structure RegisterInputs where
  critiqueOf : String × Nat
  critiqueBlocks : Bool
  lineage : Option RefusalReason
  novel : Bool
  observed : Option ObservedSample
  assess : Int → Nat → Option RefusalReason

/-- The row a window is reserved in. -/
def DataWindow.row (w : DataWindow) (d : HypothesisDraft) (until_ : Int) : WindowRow where
  hypothesisId := d.hypothesisId
  version := d.version
  dataset := w.dataset
  role := w.role
  start := w.start
  finish := w.finish
  state := .reserved
  reservedUntil := some until_
  consumedAt := none
  ordered := w.ordered
  dated := by simp

def insertWindows : List WindowRow → RegistryTxn PUnit
  | [] => pure ⟨⟩
  | w :: rest => fun s =>
    if s.windows.get? w.key = none then
      insertWindows rest { s with windows := s.windows.insert w }
    else .error .integrity s

def insertHypothesis (r : HypothesisRow) : RegistryTxn PUnit := fun s =>
  if s.hypotheses.get? (r.hypothesisId, r.version) = none ∧
      s.hypotheses.getAlt? r.contentHash = none then
    .ok ⟨⟩ { s with hypotheses := s.hypotheses.insert r }
  else .error .integrity s

def Registration.row (r : Registration) : HypothesisRow where
  hypothesisId := r.draft.hypothesisId
  version := r.draft.version
  contentHash := contentId (.registration r)
  searchCardinality := r.draft.searchCardinality
  searchOrigin := r.draft.searchOrigin
  cumulativeTrials := r.cumulativeTrials
  document := r

/-- mirrors registry.py:2153-2191 -/
def insertRegistration (r : Registration) : RegistryTxn PUnit := do
  insertHypothesis (r.row contentId)
  insertWindows (r.draft.windows.map fun w => w.row r.draft r.reservedUntil)

/-- The checks of a registration, up to the burden it is judged against.
mirrors registry.py:627-694 -/
def judge (d : HypothesisDraft) (i : RegisterInputs) (now : Int) (s : RegistryStore) :
    Except RefusalReason Registration :=
  if i.critiqueOf ≠ (d.hypothesisId, d.version) then .error .critiqueMismatched
  else if i.critiqueBlocks then .error .critiqueBlocks
  else if (s.hypotheses.get? (d.hypothesisId, d.version)).isSome then .error .alreadyRegistered
  else match i.lineage with
  | some reason => .error reason
  | none =>
    if contaminated s d (utcDate now) then .error .contaminatedWindow
    else if i.novel = false ∧ d.materiallyDifferent = none then .error .duplicate
    else if verifyMeasuredSearch s d = false then .error .unverifiedSample
    else do
      verifyCampaignFrozen contentId s d
      let trials ← cumulativeTrials contentId s d.searchCardinality (some d)
      if i.observed.all (verifySampleAgainst d.windows) = false then .error .unverifiedSample
      else match i.assess trials ((i.observed.map (·.observations)).getD d.availableObservations) with
        | some reason => .error reason
        | none => pure ⟨d, now, trials, i.observed.isSome, utcDate now + reservationDays⟩

/-- mirrors registry.py:599-716 -/
def register (d : HypothesisDraft) (i : RegisterInputs) (now : Int) :
    RegistryTxn Registration := do
  let registration ← reads (judge contentId d i now)
  insertRegistration contentId registration
  pure registration

/-! ## Artifact tests -/

/-- What a call is given: the claim, the design with the verdict of its structural checks, the
sample and the power assessment. -/
structure ArtifactInputs where
  registration : Registration
  design : String
  structured : Bool
  observed : Option ObservedSample
  assess : Int → Nat → Option RefusalReason

/-- mirrors registry.py:1285-1383 -/
def judgeArtifactTest (i : ArtifactInputs) (now : Int) (s : RegistryStore) :
    Except RefusalReason ArtifactTest :=
  let d := i.registration.draft
  let hash := contentId (.registration i.registration)
  if ((s.hypotheses.get? (d.hypothesisId, d.version)).map fun r =>
      contentId (.registration r.document)) ≠ some hash then .error .notRegistered
  else if i.structured = false then .error .invalidLineage
  else if (d.windows.filter fun w => w.role = .protectedEvaluation).any fun w =>
      ((s.windows.get? (d.hypothesisId, d.version, w.dataset, w.role)).map (·.state)) ≠
        some .reserved then .error .contaminatedWindow
  else if i.observed.all (verifySampleAgainst d.windows) = false then .error .unverifiedSample
  else do
    let trials ← cumulativeTrials contentId s 1 none
    match i.assess trials ((i.observed.map (·.observations)).getD d.availableObservations) with
    | some reason => .error reason
    | none =>
      if (s.artifactTests.get? (contentId (.testId d.hypothesisId d.version hash i.design))).isSome
      then .error .alreadyRegistered
      else pure ⟨d.hypothesisId, d.version, hash, i.design, now, trials⟩

def ArtifactTest.row (t : ArtifactTest) : ArtifactTestRow where
  testId := contentId (.testId t.hypothesisId t.hypothesisVersion t.registrationHash t.design)
  contentHash := contentId (.artifactTest t)
  trialCharge := 1
  document := t
  one := rfl

def insertArtifactTest (r : ArtifactTestRow) : RegistryTxn PUnit := fun s =>
  if s.artifactTests.get? r.testId = none ∧ s.artifactTests.getAlt? r.contentHash = none then
    .ok ⟨⟩ { s with artifactTests := s.artifactTests.insert r }
  else .error .integrity s

/-- mirrors registry.py:1269-1400 -/
def registerArtifactTest (i : ArtifactInputs) (now : Int) : RegistryTxn ArtifactTest := do
  let test ← reads (judgeArtifactTest contentId i now)
  insertArtifactTest (test.row contentId)
  pure test

end Quantbot.L3.Registry
