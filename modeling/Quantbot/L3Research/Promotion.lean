import Quantbot.Core.Decimal
import Quantbot.L3Research.ForwardDays

/-!
# The promotion ladder

`research/promotion.py` and the two writes under it (`save_promotion`, `get_promotion` of
`storage/repositories.py`). A `PromotionState` is the raw record, since `model_copy` builds
one without asking the validator; `construct` is the validator, and what a reload goes
through.

What the forward account measures apart from the claim (`Measurement`) and which
registrations are frozen (`ClaimBook`) are given with a call.
-/
namespace Quantbot.L3.Promotion

open Core L1 L2

/-! ## Stages -/

/-- mirrors promotion.py:94-104 -/
inductive Stage
  | candidate | registered | researchSurvivor | shadow | paperObservation | paperQualified
  | liveReviewEligible
deriving DecidableEq, Repr

namespace Stage

def value : Stage → String
  | candidate => "CANDIDATE"
  | registered => "REGISTERED"
  | researchSurvivor => "RESEARCH_SURVIVOR"
  | shadow => "SHADOW"
  | paperObservation => "PAPER_OBSERVATION"
  | paperQualified => "PAPER_QUALIFIED"
  | liveReviewEligible => "LIVE_REVIEW_ELIGIBLE"

/-- `stage_rank`.
mirrors promotion.py:1539-1548 -/
def rank : Stage → ℕ
  | candidate => 0
  | registered => 1
  | researchSurvivor => 2
  | shadow => 3
  | paperObservation => 4
  | paperQualified => 5
  | liveReviewEligible => 6

/-- `ALLOWED_PROMOTIONS`.
mirrors promotion.py:107-119 -/
def allowedPromotions : Stage → List Stage
  | candidate => [registered]
  | registered => [researchSurvivor, candidate]
  | researchSurvivor => [shadow, registered]
  | shadow => [paperObservation, researchSurvivor]
  | paperObservation => [paperQualified, shadow]
  | paperQualified => [liveReviewEligible, paperObservation]
  | liveReviewEligible => []

/-- `ECONOMIC_STAGES`. -/
def economic (s : Stage) : Bool := s = paperQualified ∨ s = liveReviewEligible

theorem economic_iff (s : Stage) : s.economic = true ↔ paperQualified.rank ≤ s.rank := by
  cases s <;> decide

end Stage

def minimumForwardDays : ℕ := 30
def minimumForwardTrades : ℕ := 30

/-! ## Experiment outcomes -/

inductive OutcomeVerdict | survived | refuted | underpowered | inconclusive | failed
deriving DecidableEq, Repr

inductive ExecutionPath | productionEngine | researchScript | sandbox
deriving DecidableEq, Repr

inductive Comparison | paired | unpaired | singleSample
deriving DecidableEq, Repr

inductive StatisticalTest
  | oneSampleT | pairedT | welchT | jobsonKorkieMemmel | stationaryBootstrap | binomial | spearman
deriving DecidableEq, Repr

/-- `VALID_FOR`.
mirrors manifest.py:149-157 -/
def StatisticalTest.validFor : StatisticalTest → List Comparison
  | oneSampleT | binomial | spearman => [.singleSample]
  | pairedT | jobsonKorkieMemmel => [.paired]
  | welchT => [.unpaired]
  | stationaryBootstrap => [.paired, .unpaired, .singleSample]

inductive ScenarioVerdict | survived | refuted | underpowered | mislabeled | unverified | unassessed
deriving DecidableEq, Repr

inductive CampaignVerdict | survived | refuted | underpowered | inconclusive
deriving DecidableEq, Repr

structure ScenarioOutcome where
  scenarioId : String
  verdict : ScenarioVerdict
deriving DecidableEq, Repr

/-- mirrors validation_campaign.py:491-500 -/
structure CampaignOutcome where
  campaignId : String
  scenarios : List ScenarioOutcome
  verdict : CampaignVerdict
  underpoweredCount : ℕ
  underpoweredFraction : ℚ
  integrityDefects : List String
  detail : String
deriving DecidableEq

/-- What of the compiled plan the gate reads.
mirrors builder.py:149-181 -/
structure ExperimentPlan where
  hypothesisId : String
  hypothesisVersion : Int
  test : StatisticalTest
  comparison : Comparison
  cumulativeTrials : ℕ
  luckThresholdZ : ℚ
  probes : List String
  executionPath : ExecutionPath
  validationCampaignId : Option String
deriving DecidableEq

/-- mirrors builder.py:293-315 -/
structure ExperimentOutcome where
  plan : ExperimentPlan
  verdict : OutcomeVerdict
  testStatistic : Option ℚ
  probesRun : List String
  probesFailed : List String
  validationOutcome : Option CampaignOutcome
deriving DecidableEq

/-- One objection, when there is one. -/
def objection (holds : Prop) [Decidable holds] (text : String) : List String :=
  if holds then [text] else []

/-- mirrors promotion.py:375-447 -/
def campaignContradictions (campaign : CampaignOutcome) : List String :=
  let name := "validation campaign " ++ campaign.campaignId
  let identifiers := campaign.scenarios.map ScenarioOutcome.scenarioId
  let unresolved := campaign.scenarios.filter fun s =>
    s.verdict ∈ [ScenarioVerdict.mislabeled, .unverified, .unassessed]
  let underpowered := campaign.scenarios.filter fun s => s.verdict = .underpowered
  if campaign.scenarios = [] then
    [name ++ " claims to have survived without grading a single scenario; a campaign carries " ++
      "scenarios and every one is graded"]
  else
    objection (¬ identifiers.Nodup) (name ++ " grades the same scenario more than once, so its " ++
      "aggregate is computed over an ambiguous set") ++
    objection (campaign.integrityDefects ≠ []) (name ++ " reports itself as survived while " ++
      "carrying unresolved integrity defects: " ++ "; ".intercalate campaign.integrityDefects) ++
    objection (¬ ∃ s ∈ campaign.scenarios, s.verdict = .survived) (name ++ " reports itself as " ++
      "survived without a single surviving scenario; every campaign freezes a mandatory adverse " ++
      "scenario, and a required scenario that did not survive sends the aggregate somewhere else") ++
    objection (unresolved ≠ []) (name ++ " reports itself as survived while " ++
      ", ".intercalate (unresolved.map ScenarioOutcome.scenarioId) ++ " resolved nothing") ++
    objection (campaign.underpoweredCount ≠ underpowered.length) (name ++ " declares " ++
      toString campaign.underpoweredCount ++ " underpowered scenarios and grades " ++
      toString underpowered.length) ++
    objection (campaign.underpoweredFraction ≠
        Decimal.div underpowered.length campaign.scenarios.length)
      (name ++ " declares an underpowered share its scenarios do not give")

/-- mirrors promotion.py:334-372 -/
def campaignObjections (outcome : ExperimentOutcome) : List String :=
  match outcome.plan.validationCampaignId, outcome.validationOutcome with
  | none, none => []
  | none, some campaign =>
    ["this experiment registered no validation campaign, so outcome " ++ campaign.campaignId ++
      " is not hostile validation of it"]
  | some required, none =>
    ["the registration froze validation campaign " ++ required ++
      " and this result carries none; a gate passed by omitting it is not a gate"]
  | some required, some campaign =>
    if campaign.campaignId ≠ required then
      ["the registration froze validation campaign " ++ required ++ " and this result was graded " ++
        "under " ++ campaign.campaignId ++ "; a result from another campaign is a result about " ++
        "another question"]
    else if campaign.verdict ≠ .survived then
      ["validation campaign " ++ required ++ " did not survive: " ++ campaign.detail]
    else campaignContradictions campaign

/-- mirrors promotion.py:271-331 -/
def survivorObjections (outcome : ExperimentOutcome) : List String :=
  let plan := outcome.plan
  let missing := plan.probes.filter fun probe => probe ∉ outcome.probesRun
  objection (outcome.verdict ≠ .survived) "the experiment did not survive" ++
  objection (outcome.probesFailed ≠ [])
    ("adversarial probes objected: " ++ ", ".intercalate outcome.probesFailed) ++
  objection (missing ≠ []) ("adversarial probes did not run: " ++ ", ".intercalate missing) ++
  objection (plan.executionPath ≠ .productionEngine)
    "the result is a standalone model rather than a measurement of this system" ++
  campaignObjections outcome ++
  objection (plan.comparison ∉ plan.test.validFor)
    "the flaw would be in the statistic rather than the protocol" ++
  match outcome.testStatistic with
  | none => ["no test statistic was reported"]
  | some statistic =>
    objection (¬ plan.luckThresholdZ ≤ statistic)
      ("the test statistic does not clear the bar frozen for " ++ toString plan.cumulativeTrials ++
        " cumulative trials in the direction the hypothesis registered")

/-! ## The mandate -/

inductive MandateStatus | provisional | projectDefault | ratified | superseded
deriving DecidableEq, Repr

structure EconomicObjective where
  version : ℕ
  contentHash : String
  status : MandateStatus
deriving DecidableEq, Repr

/-- mirrors mandate.py:233-235 -/
def EconomicObjective.identity (o : EconomicObjective) : String :=
  "economic-objective-v" ++ toString o.version ++ "-" ++ String.ofList (o.contentHash.toList.take 16)

/-- mirrors mandate.py:270-306 -/
def EconomicObjective.ratificationObjections (o : EconomicObjective) : List String :=
  match o.status with
  | .superseded =>
    [o.identity ++ " is superseded; a candidate judged under it was judged against " ++
      "an objective the project has since replaced"]
  | .provisional =>
    [o.identity ++ " is PROVISIONAL: the values it freezes are a draft rather than a bar " ++
      "anything was measured against"]
  | .projectDefault | .ratified => []

/-! ## The state of a strategy -/

/-- mirrors promotion.py:456-489 -/
structure PromotionState where
  strategyId : String
  stage : Stage
  strategyVersion : String
  configurationHash : String
  reason : String
  actor : String
  updatedAt : Int
  hypothesisId : Option String := none
  hypothesisVersion : Option Int := none
  objectiveIdentity : Option String := none
  evidenceIdentity : Option String := none
deriving DecidableEq, Repr

/-- What a call raises: `PromotionRefused` or a validation error. -/
inductive PromotionError
  | refused (strategyId : String) (stage : Stage) (reason : String)
  | validation (message : String)
deriving DecidableEq, Repr

/-- `not value`. -/
def isBlank (value : Option String) : Bool := value.all (· = "")

/-- What an economic stage must name.
mirrors promotion.py:495-504 -/
def PromotionState.missing (s : PromotionState) : List String :=
  objection (isBlank s.hypothesisId = true) "a bound hypothesis" ++
  objection (isBlank s.objectiveIdentity = true) "the objective it was judged under" ++
  objection (isBlank s.evidenceIdentity = true) "the forward assessment that justified it"

/-- The state with the texts stripped, as the fields' type leaves them. -/
def PromotionState.stripped (s : PromotionState) : PromotionState :=
  { s with
    strategyId := strip s.strategyId
    strategyVersion := strip s.strategyVersion
    configurationHash := strip s.configurationHash
    reason := strip s.reason
    actor := strip s.actor }

/-- The constructor: field checks, then `validate_state`.
mirrors promotion.py:476-511 -/
def PromotionState.construct (raw : PromotionState) : Except PromotionError PromotionState :=
  let s := raw.stripped
  if s.strategyId = "" ∨ s.strategyVersion = "" ∨ s.configurationHash = "" ∨ s.reason = "" ∨
      s.actor = "" then
    .error (.validation "String should have at least 1 character")
  else if s.hypothesisVersion.any (· < 1) then
    .error (.validation "Input should be greater than or equal to 1")
  else if s.hypothesisId.isNone ≠ s.hypothesisVersion.isNone then
    .error (.validation "a bound claim needs both a hypothesis id and a version")
  else if s.stage.economic ∧ s.missing ≠ [] then
    .error (.validation (s.stage.value ++ " is an economic claim and this state cannot name " ++
      ", ".intercalate s.missing ++ "; a stage is not provenance"))
  else .ok s

/-- mirrors promotion.py:513-518 -/
def PromotionState.claim (s : PromotionState) : Option (String × Int) := do
  let id ← s.hypothesisId
  let version ← s.hypothesisVersion
  pure (id, version)

/-! ## Forward evidence -/

inductive ForwardVerdict
  | observing | underpowered | negative | inconclusive | edgeSupported
deriving DecidableEq, Repr

/-- mirrors promotion.py:619-665 -/
structure ForwardEvidence where
  strategyId : String
  strategyVersion : String
  configurationHash : String
  objectiveIdentity : String
  hypothesisId : Option String
  hypothesisVersion : Option Int
  forwardDays : ℕ
  forwardTrades : ℕ
  blocking : List String
  unassessed : List String
  verdict : ForwardVerdict
  /-- The hash of everything the assessment asserts. -/
  digest : String
deriving DecidableEq, Repr

def ForwardEvidence.identity (e : ForwardEvidence) : String := "forward-evidence-" ++ e.digest

def ForwardEvidence.supported (e : ForwardEvidence) : Bool := e.verdict = .edgeSupported

/-- The registrations that are frozen; their ids are not empty. -/
structure ClaimBook where
  rows : List (String × Int)
  named : ∀ row ∈ rows, row.1 ≠ ""

/-- What the forward account says apart from the claim: whether the power assessment cleared,
the two point estimates, the other objections and the checks that did not run. -/
structure Measurement where
  powerCleared : Bool
  report : Option (ℚ × ℚ)
  blocking : List String
  unassessed : List String
  digest : String
deriving DecidableEq

/-- mirrors promotion.py:902-923 -/
def forwardVerdict (days trades : ℕ) (power : Option Bool) (report : Option (ℚ × ℚ))
    (blocking unassessed : List String) : ForwardVerdict :=
  if days < minimumForwardDays ∨ trades < minimumForwardTrades then .observing
  else if power = some false then .underpowered
  else if report.any fun r => r.1 ≤ 0 ∨ r.2 ≤ 0 then .negative
  else if blocking ≠ [] ∨ unassessed ≠ [] then .inconclusive
  else .edgeSupported

/-- mirrors promotion.py:975-1239 -/
def assessForwardEvidence (bound : Option (String × Int)) (claims : ClaimBook)
    (ledger : TradingLedger) (objective : EconomicObjective) (measured : Measurement)
    (strategyId strategyVersion configurationHash : String) : ForwardEvidence :=
  let claim := bound.filter fun b => b ∈ claims.rows
  let counts := countForwardDays
    (observeForwardDays ledger strategyId strategyVersion configurationHash) strategyVersion
    configurationHash
  let power := claim.map fun _ => measured.powerCleared
  let blocking :=
    objection (counts.1 < minimumForwardDays)
      (toString counts.1 ++ " of " ++ toString minimumForwardDays ++ " authentic forward days") ++
    objection (counts.2 < minimumForwardTrades)
      (toString counts.2 ++ " of " ++ toString minimumForwardTrades ++ " forward trades") ++
    objection (claim = none) ("no frozen economic claim is attached to this deployment, so there " ++
      "is nothing for forward evidence to support; a success metric chosen after seeing the P&L " ++
      "is not a frozen estimand") ++
    measured.blocking ++ objective.ratificationObjections
  { strategyId := strategyId
    strategyVersion := strategyVersion
    configurationHash := configurationHash
    objectiveIdentity := objective.identity
    hypothesisId := bound.map Prod.fst
    hypothesisVersion := bound.map Prod.snd
    forwardDays := counts.1
    forwardTrades := counts.2
    blocking := blocking
    unassessed := measured.unassessed
    verdict := forwardVerdict counts.1 counts.2 power measured.report blocking measured.unassessed
    digest := measured.digest }

/-! ## Moves -/

/-- The keyword arguments of `promote`. -/
structure PromoteArgs where
  actor : String
  reason : String
  now : Int
  outcome : Option ExperimentOutcome := none
  observations : Option (List ForwardObservation) := none
  evidence : Option ForwardEvidence := none
  objective : Option EconomicObjective := none
  hypothesisId : Option String := none
  hypothesisVersion : Int := 1
  integrityClear : Bool := true

/-- `raise PromotionRefused` unless the condition holds. -/
def require (holds : Prop) [Decidable holds] (strategyId : String) (target : Stage)
    (reason : String) : Except PromotionError Unit :=
  if holds then .ok () else .error (.refused strategyId target reason)

/-- What a strategy stops carrying when it falls to `target`.
mirrors promotion.py:1467-1483 -/
def droppedBy (target : Stage) (s : PromotionState) : PromotionState :=
  let s := if target.rank < Stage.paperQualified.rank then
      { s with objectiveIdentity := none, evidenceIdentity := none }
    else s
  if target = .candidate then { s with hypothesisId := none, hypothesisVersion := none } else s

/-- The fields every move writes, and what it drops. -/
def PromotionState.moved (s : PromotionState) (target : Stage) (actor reason : String) (now : Int) :
    PromotionState :=
  droppedBy target { s with stage := target, reason := reason, actor := actor, updatedAt := now }

/-- The gate of `REGISTERED`: the claim is bound once.
mirrors promotion.py:1300-1328 -/
def bindClaim (s moved : PromotionState) (target : Stage) (args : PromoteArgs) :
    Except PromotionError PromotionState :=
  match target, args.hypothesisId with
  | .registered, none => .error (.refused s.strategyId target
      ("REGISTERED means a claim has been frozen for this strategy, so it needs the registration " ++
      "it is testing; a deployment with no claim behind it can never be anything but an " ++
      "operational baseline"))
  | .registered, some id =>
    if s.claim.any (· ≠ (id, args.hypothesisVersion)) then
      .error (.refused s.strategyId target ("already bound to " ++ s.hypothesisId.getD "None" ++
        "; a different claim is a different question, and swapping one in here is how a refuted " ++
        "mechanism acquires an unrefuted alibi. Demote to CANDIDATE first"))
    else .ok { moved with
      hypothesisId := some id, hypothesisVersion := some args.hypothesisVersion }
  | _, none => .ok moved
  | _, some _ => .error (.refused s.strategyId target
      ("the claim behind a strategy is bound at REGISTERED and read thereafter; supplying one " ++
      "here would let the caller choose which claim the gate checks"))

/-- The gate of `RESEARCH_SURVIVOR`.
mirrors promotion.py:1330-1363 -/
def survivorGate (s : PromotionState) (args : PromoteArgs) : Except PromotionError Unit :=
  let refuse (reason : String) : Except PromotionError Unit :=
    .error (.refused s.strategyId .researchSurvivor reason)
  match args.outcome, s.claim with
  | none, _ => refuse "no experiment outcome was supplied"
  | some _, none => refuse ("RESEARCH_SURVIVOR means a frozen claim survived its own experiment, " ++
      "and this strategy carries no claim for a result to be about; bind one at REGISTERED")
  | some outcome, some claim =>
    if (outcome.plan.hypothesisId, outcome.plan.hypothesisVersion) ≠ claim then
      refuse ("the result is about " ++ outcome.plan.hypothesisId ++ "; a survivor is a claim that " ++
        "survived its own experiment, not one that survived somebody else's")
    else if survivorObjections outcome ≠ [] then
      refuse ("; ".intercalate (survivorObjections outcome))
    else .ok ()

/-- The gate of `PAPER_QUALIFIED`: the evidence it passes with.
mirrors promotion.py:1365-1432 -/
def qualificationGate (s : PromotionState) (args : PromoteArgs) :
    Except PromotionError ForwardEvidence :=
  let refuse (reason : String) : Except PromotionError ForwardEvidence :=
    .error (.refused s.strategyId .paperQualified reason)
  match args.observations, args.evidence with
  | none, _ => refuse ("no ledger-derived forward observations were supplied; call " ++
      "observe_forward_days() rather than assembling them")
  | some observations, evidence =>
    let counts := countForwardDays observations s.strategyVersion s.configurationHash
    if counts.1 < minimumForwardDays ∨ counts.2 < minimumForwardTrades then
      refuse (toString counts.1 ++ " authentic forward days and " ++ toString counts.2 ++
        " trades against " ++ toString minimumForwardDays ++ " and " ++
        toString minimumForwardTrades ++ " required")
    else
      match evidence with
      | none => refuse ("no measured forward evidence was supplied; call " ++
          "assess_forward_evidence() rather than reading the day and trade counts as an economic " ++
          "result")
      | some evidence =>
        if evidence.strategyId ≠ s.strategyId then
          refuse ("the evidence measures " ++ evidence.strategyId ++ ", not " ++ s.strategyId ++
            "; a matching version and configuration hash is not a matching strategy")
        else if (evidence.strategyVersion, evidence.configurationHash) ≠
            (s.strategyVersion, s.configurationHash) then
          refuse ("the evidence measures " ++ evidence.strategyVersion ++ "/" ++
            evidence.configurationHash ++ " and this strategy is now " ++ s.strategyVersion ++ "/" ++
            s.configurationHash)
        else
          match s.claim with
          | none => refuse ("no frozen claim is bound to this strategy, so there is nothing for " ++
              "the forward window to have supported; qualification is a statement about a " ++
              "hypothesis")
          | some claim =>
            if (evidence.hypothesisId, evidence.hypothesisVersion) ≠ (some claim.1, some claim.2) then
              refuse ("the evidence was measured against another claim and this strategy is " ++
                "bound to " ++ claim.1)
            else if evidence.supported = false then
              refuse ("; ".intercalate evidence.blocking)
            else .ok evidence

/-- The gate of `LIVE_REVIEW_ELIGIBLE`.
mirrors promotion.py:1434-1462 -/
def reviewGate (s : PromotionState) (args : PromoteArgs) : Except PromotionError Unit :=
  let refuse (reason : String) : Except PromotionError Unit :=
    .error (.refused s.strategyId .liveReviewEligible reason)
  match args.objective with
  | none => refuse ("no economic objective was supplied; a candidate cannot be offered for human " ++
      "review without naming the mandate it satisfies")
  | some objective =>
    if objective.ratificationObjections ≠ [] then
      refuse ("; ".intercalate objective.ratificationObjections)
    else if some objective.identity ≠ s.objectiveIdentity then
      refuse ("qualified under " ++ s.objectiveIdentity.getD "None" ++
        " and offered for review under " ++ objective.identity ++ "; the objective moved, so the " ++
        "forward window has not been judged against the objective it is about to be presented as " ++
        "meeting")
    else .ok ()

/-- The gates of the stages above `REGISTERED`, and what they add to the state. -/
def earned (s moved : PromotionState) (target : Stage) (args : PromoteArgs) :
    Except PromotionError PromotionState :=
  match target with
  | .researchSurvivor => (survivorGate s args).map fun _ => moved
  | .paperQualified => (qualificationGate s args).map fun evidence =>
      { moved with
        objectiveIdentity := some evidence.objectiveIdentity
        evidenceIdentity := some evidence.identity }
  | .liveReviewEligible => (reviewGate s args).map fun _ => moved
  | .candidate | .registered | .shadow | .paperObservation => .ok moved

/-- mirrors promotion.py:1242-1464 -/
def promote (s : PromotionState) (target : Stage) (args : PromoteArgs) :
    Except PromotionError PromotionState := do
  require (target ∈ s.stage.allowedPromotions) s.strategyId target
    (s.stage.value ++ " does not lead to " ++ target.value)
  require (args.integrityClear = true) s.strategyId target
    "an unresolved evidence-integrity violation stands"
  let bound ← bindClaim s (s.moved target args.actor args.reason args.now) target args
  earned s bound target args

/-- mirrors promotion.py:1486-1506 -/
def demote (s : PromotionState) (target : Stage) (actor reason : String) (now : Int) :
    Except PromotionError PromotionState :=
  if target ∉ s.stage.allowedPromotions ∧ s.stage.rank ≤ target.rank then
    .error (.refused s.strategyId target (target.value ++ " is not below " ++ s.stage.value))
  else .ok (s.moved target actor reason now)

/-- mirrors promotion.py:1509-1536 -/
def materialChange (s : PromotionState) (strategyVersion configurationHash : String) (now : Int) :
    PromotionState :=
  if (s.strategyVersion, s.configurationHash) = (strategyVersion, configurationHash) then s
  else
    let demoted := if s.stage.rank ≤ Stage.researchSurvivor.rank then s.stage else .researchSurvivor
    { s.moved demoted "promotion-ladder" "material change; forward qualification restarted" now with
      strategyVersion := strategyVersion, configurationHash := configurationHash }

/-! ## The ledger -/

inductive Direction | promotion | demotion
deriving DecidableEq, Repr

/-- A row of `promotion_events`: the stage left, the direction and the state entered. -/
structure PromotionEvent where
  fromStage : Option Stage
  direction : Direction
  entered : PromotionState
deriving DecidableEq, Repr

/-- `promotion_state` and `promotion_events`. -/
structure Ladder where
  states : Table PromotionState (·.strategyId) := .empty
  events : List PromotionEvent := []

namespace Ladder

/-- mirrors repositories.py:421-488 -/
def save (l : Ladder) (record : PromotionState) (direction : Direction) : Ladder where
  states := l.states.upsert record
  events := l.events ++
    [⟨(l.states.get? record.strategyId).map PromotionState.stage, direction, record⟩]

/-- mirrors promotion.py:1758-1775 -/
def current (l : Ladder) (strategyId : String) : Except PromotionError (Option PromotionState) :=
  match l.states.get? strategyId with
  | none => .ok none
  | some record => record.construct.map some

/-- mirrors promotion.py:1924-1930 -/
def requireState (l : Ladder) (strategyId : String) : Except PromotionError PromotionState := do
  match ← l.current strategyId with
  | none => throw (.refused strategyId .candidate "is not on the ladder, so it cannot move on it")
  | some s => pure s

/-- mirrors promotion.py:1777-1804 -/
def enter (l : Ladder) (s : PromotionState) : Except PromotionError Ladder :=
  if (l.states.get? s.strategyId).isSome then
    .error (.refused s.strategyId s.stage
      "already on the ladder; use promote or demote rather than re-entering")
  else if s.stage.economic then
    .error (.refused s.strategyId s.stage (s.stage.value ++ " is earned through promote(), which " ++
      "reads the forward ledger; entering at it would assert a qualification no gate ever ran"))
  else .ok (l.save s .promotion)

/-- What a `promote` call reads: the mandate on disk, the trading ledger, the frozen claims and
the forward measurement. -/
structure Readings where
  mandate : Except String EconomicObjective
  trading : TradingLedger := {}
  claims : ClaimBook
  measured : Measurement

/-- The arguments of the pure move, read rather than accepted where the stage is earned.
mirrors promotion.py:1853-1909 -/
def arguments (s : PromotionState) (target : Stage) (accountId : Option String) (args : PromoteArgs)
    (readings : Readings) : Except PromotionError PromoteArgs :=
  let refuse (reason : String) : Except PromotionError PromoteArgs :=
    .error (.refused s.strategyId target reason)
  if target = .liveReviewEligible ∧ target ∈ s.stage.allowedPromotions then
    if args.objective.isSome then
      refuse ("the economic objective is read from disk, not supplied; a caller holding it holds " ++
        "the definition of success")
    else
      match readings.mandate with
      | .error message => refuse message
      | .ok objective => .ok { args with objective := some objective }
  else if target = .paperQualified ∧ target ∈ s.stage.allowedPromotions then
    if args.observations.isSome then
      refuse "forward observations are read from the durable ledger, not supplied"
    else if args.evidence.isSome then
      refuse "forward evidence are read from the durable ledger, not supplied"
    else if accountId = none then
      refuse ("paper qualification needs an account to read equity from; absolute P&L cannot tell " ++
        "+4% against +8% from an edge, and neither can no P&L")
    else
      match readings.mandate with
      | .error message => refuse message
      | .ok objective => .ok { args with
          observations := some (observeForwardDays readings.trading s.strategyId s.strategyVersion
            s.configurationHash)
          evidence := some (assessForwardEvidence s.claim readings.claims readings.trading objective
            readings.measured s.strategyId s.strategyVersion s.configurationHash) }
  else .ok args

/-- mirrors promotion.py:1806-1912 -/
def promote (l : Ladder) (strategyId : String) (target : Stage) (accountId : Option String)
    (args : PromoteArgs) (readings : Readings) : Except PromotionError Ladder := do
  let s ← l.requireState strategyId
  let args ← arguments s target accountId args readings
  let moved ← Promotion.promote s target args
  pure (l.save moved .promotion)

/-- mirrors promotion.py:1914-1918 -/
def demote (l : Ladder) (strategyId : String) (target : Stage) (actor reason : String) (now : Int) :
    Except PromotionError Ladder := do
  let s ← l.requireState strategyId
  let moved ← Promotion.demote s target actor reason now
  pure (l.save moved .demotion)

/-- `list_promotions`: the rows as they are when a sweep begins. -/
def listPromotions (l : Ladder) : List PromotionState :=
  l.states.rows.insertionSort fun a b => a.strategyId ≤ b.strategyId

/-- `NON_INFORMATIONAL`. -/
def nonInformational : List String := ["WARNING", "ERROR", "CRITICAL", "FATAL"]

/-- The loop of a sweep: the listed strategies that are `due`, one by one. -/
def sweep (l : Ladder) (due : PromotionState → Bool) (target : Stage) (actor : String)
    (reason : PromotionState → String) (now : Int) : Except PromotionError Ladder :=
  (l.listPromotions.filter due).foldlM
    (fun l record => l.demote record.strategyId target actor (reason record) now) l

/-- A strategy above the floor with an incident that is not informational. -/
def integrityDue (incidents : List (Option String × String × String)) (record : PromotionState) :
    Bool :=
  let suspect := incidents.filterMap fun i =>
    if String.map Char.toUpper i.2.2 ∈ nonInformational then i.1 else none
  record.strategyId ∈ suspect ∧ ¬ record.stage.rank ≤ Stage.researchSurvivor.rank

/-- mirrors promotion.py:1636-1689 -/
def demoteOnIntegrityIncidents (l : Ladder) (incidents : List (Option String × String × String))
    (actor : String) (now : Int) : Except PromotionError Ladder :=
  l.sweep (integrityDue incidents) .researchSurvivor actor (fun _ => "unresolved integrity incident")
    now

/-- A qualified strategy whose claim has refutations on record. -/
def refutedDue (refutations : String → List String) (record : PromotionState) : Bool :=
  record.stage.economic ∧ record.hypothesisId.any fun id => refutations id ≠ []

/-- mirrors promotion.py:1698-1738 -/
def demoteOnRefutedClaims (l : Ladder) (refutations : String → List String) (actor : String)
    (now : Int) : Except PromotionError Ladder :=
  l.sweep (refutedDue refutations) .paperObservation actor
    (fun record => record.hypothesisId.getD "None" ++ " refuted by " ++
      ", ".intercalate ((record.hypothesisId.map refutations).getD [])) now

/-- A material change, stored the way a move is. -/
def materialChange (l : Ladder) (strategyId strategyVersion configurationHash : String) (now : Int) :
    Except PromotionError Ladder := do
  let s ← l.requireState strategyId
  pure (l.save (Promotion.materialChange s strategyVersion configurationHash now) .demotion)

end Ladder
end Quantbot.L3.Promotion
