import Quantbot.L1Domain.Models

/-!
# Paper-core evidence documents

`paper_core/contracts.py`: the immutable documents the outcome path reads. What a
model validator promises is a proof field, so an event has exactly one payload, a
complete activity list belongs to an order observation and carries a watermark,
and a cost revision names its predecessor.

A content id (SHA-256 of the canonical text, `research/manifest.py:89-91`) is
taken by an arbitrary function of the content; nothing below assumes that two
contents have two ids.
-/
namespace Quantbot.L4

open L1

inductive EvidenceLane | syntheticTest | localSimRealData | brokerPaper
deriving DecidableEq, Repr

inductive Provider | explicitSynthetic | localSimRealData | alpaca
deriving DecidableEq, Repr

inductive SelectionPolicy | modelOnly | signalOrExplore
deriving DecidableEq, Repr

inductive ClockProfile | strict | paperTime
deriving DecidableEq, Repr

/-- The fields of `CoreConfig` the outcome, order and capital paths read. -/
structure CoreConfig where
  accountId : String
  releaseId : String
  owner : String
  generation : Nat
  evidenceLane : EvidenceLane
  policyId : String := "collect-owned-30m-stop100-v1"
  selectionPolicy : SelectionPolicy := .modelOnly
  clockProfile : ClockProfile := .strict
deriving DecidableEq, Repr

/-! ## Costs and cash -/

inductive CostComponent | fee | modeledSlippage
deriving DecidableEq, Repr

inductive CostSource | brokerReported | contractualZero | modeled | unknown
deriving DecidableEq, Repr

/-- `CostItem.authority`.
mirrors contracts.py:741-755 -/
structure ValidCost (component : CostComponent) (amount : Option ℚ) (source : CostSource)
    (documentId : Option String) (revision : Nat) (supersedes : Option String) : Prop where
  amount_nonneg : ∀ a ∈ amount, 0 ≤ a
  unknown_amount : source = .unknown → amount = none
  known_authority : source ≠ .unknown →
    amount ≠ none ∧ documentId ≠ none ∧ documentId ≠ some ""
  zero_amount : source = .contractualZero → amount = some 0
  modeled_separate : source = .modeled ↔ component = .modeledSlippage
  revision_pos : 1 ≤ revision
  predecessor : revision = 1 ↔ supersedes = none

/-- mirrors contracts.py:728-755 -/
@[ext] structure CostItem where
  recordedAt : Int
  releaseId : String
  evidenceLane : EvidenceLane
  fillId : String
  component : CostComponent := .fee
  amount : Option ℚ := none
  source : CostSource := .unknown
  documentId : Option String := none
  effectiveStart : Int
  effectiveEnd : Int
  revision : Nat := 1
  supersedes : Option String := none
  effective_le : effectiveStart ≤ effectiveEnd
  valid : ValidCost component amount source documentId revision supersedes

instance : DecidableEq CostItem := fun _ _ =>
  decidable_of_iff _ CostItem.ext_iff.symm

/-- mirrors contracts.py:758-765 -/
structure CashActivity where
  recordedAt : Int
  releaseId : String
  evidenceLane : EvidenceLane
  accountId : String
  documentId : String
  activityIds : List String
  movements : List (String × ℚ)
  complete : Bool
  watermark : Int
deriving DecidableEq

/-! ## Broker events -/

/-- The one payload of an event (`event_payload`, first check). -/
inductive EventPayload
  | order (order : BrokerOrder)
  | fill (fill : Fill)
  | cost (cost : CostItem)
  | cashActivity (activity : CashActivity)
deriving DecidableEq

def EventPayload.isOrder : EventPayload → Bool
  | .order _ => true
  | _ => false

/-- mirrors contracts.py:768-797 -/
structure BrokerEvent where
  recordedAt : Int
  releaseId : String
  evidenceLane : EvidenceLane
  sourceRefs : List String := []
  eventId : String
  rawDigest : String
  provider : Provider
  accountId : String
  endpoint : String
  clientOrderId : String
  occurredAt : Int
  payload : EventPayload
  activityComplete : Bool := false
  activityFillIds : List String := []
  activityWatermark : Option Int := none
  correctionOf : Option String := none
  occurred_le : occurredAt ≤ recordedAt
  complete_order : activityComplete → payload.isOrder
  complete_watermark : activityComplete → ∃ w ∈ activityWatermark, w ≤ recordedAt
deriving DecidableEq

namespace BrokerEvent

def order? (e : BrokerEvent) : Option BrokerOrder :=
  match e.payload with
  | .order o => some o
  | _ => none

def fill? (e : BrokerEvent) : Option Fill :=
  match e.payload with
  | .fill f => some f
  | _ => none

/-- The key `_import_events` sorts by. -/
def rank (e : BrokerEvent) : Nat :=
  match e.payload with
  | .order _ => 0
  | .fill _ => 1
  | _ => 2

/-- The fields `_semantic` compares: all but the receipt time, and for an order
observation also not the poll time and the watermark.
mirrors outcomes.py:46-54 -/
structure Semantic where
  releaseId : String
  evidenceLane : EvidenceLane
  sourceRefs : List String
  eventId : String
  rawDigest : String
  provider : Provider
  accountId : String
  endpoint : String
  clientOrderId : String
  occurredAt : Option Int
  payload : EventPayload
  activityComplete : Bool
  activityFillIds : List String
  activityWatermark : Option Int
  correctionOf : Option String
deriving DecidableEq

def semantic (e : BrokerEvent) : Semantic where
  releaseId := e.releaseId
  evidenceLane := e.evidenceLane
  sourceRefs := e.sourceRefs
  eventId := e.eventId
  rawDigest := e.rawDigest
  provider := e.provider
  accountId := e.accountId
  endpoint := e.endpoint
  clientOrderId := e.clientOrderId
  occurredAt := if e.payload.isOrder then none else some e.occurredAt
  payload := e.payload
  activityComplete := e.activityComplete
  activityFillIds := e.activityFillIds
  activityWatermark := if e.payload.isOrder then none else e.activityWatermark
  correctionOf := e.correctionOf

end BrokerEvent

/-! ## Proofs, receipts, decisions and outcomes -/

/-- `funds_authority`. -/
inductive FundsAuthority | brokerPaperBalance
deriving DecidableEq, Repr

/-- mirrors contracts.py:418-443 -/
@[ext] structure ReconciliationProof where
  recordedAt : Int
  releaseId : String
  evidenceLane : EvidenceLane
  fundsAuthority : Option FundsAuthority := none
  ledgerStateId : Option String := none
  account : Account
  baselineId : String
  generation : Nat
  fillIds : List String
  expectedQuantities : List (String × ℚ)
  actualQuantities : List (String × ℚ)
  positions : List Position
  expectedCash : Option ℚ
  cashComplete : Bool := true
  acquisitionId : String
  complete : Bool
  orderIds : List String := []
  quarantinedSymbols : List String := []
  custodyEvidenceIds : List String := []
  generation_pos : 1 ≤ generation

instance : DecidableEq ReconciliationProof := fun _ _ =>
  decidable_of_iff _ ReconciliationProof.ext_iff.symm

def ReconciliationProof.accountId (p : ReconciliationProof) : String := p.account.accountId

def ReconciliationProof.accountCash (p : ReconciliationProof) : ℚ := p.account.cash

/-- mirrors contracts.py:652-656 -/
structure GuardianReceipt where
  recordedAt : Int
  owner : String
  generation : Nat
  validUntil : Int
  protectionIds : List String
deriving DecidableEq

/-- The fields of `Decision` a claim writes into the ledger. -/
structure Decision where
  recordedAt : Int
  observationId : String
  symbol : String
  quantity : ℚ
deriving DecidableEq

/-- The fields of `RoundTrip` that `process_outcomes` reads. -/
structure RoundTrip where
  lotId : String
  reconciliationId : String
  status : String
  revision : Nat
  supersedes : Option String
  recordedAt : Int
  sourceStart : Int
  sourceEnd : Int
  availableAt : Int
  dataset : String
  policyId : String
  sourceStateHash : String
deriving DecidableEq

/-- The document kept in place of a contradicted zero cost.
mirrors outcomes.py:319-330 -/
structure AdmissionRefusal where
  accountId : String
  contractId : String
  sourceEventId : String
  costId : String
  fillId : String
  clientOrderId : String
  firstConflictSource : String
  firstConflictAt : Int
deriving DecidableEq

/-! ## Content ids -/

/-- What the modelled code takes content ids of. -/
inductive Content
  | source (account : String) (provider : Provider) (endpoint event : String)
  | cursor (provider : Provider) (account endpoint : String)
  | costContractConflict (contract account : String)
  | cost (item : CostItem)
  | cashActivity (activity : CashActivity)
  | proof (proof : ReconciliationProof)
  | receipt (receipt : GuardianReceipt)
  | decision (decision : Decision)
  | roundTrip (trip : RoundTrip)
  | refusal (refusal : AdmissionRefusal)
  | event (event : BrokerEvent)
  | rejection (events : List BrokerEvent) (reason : String)
  | entryClaim (binding observation : String)
  | exitClaim (lot protection : String) (entryFills previousExits : List String)
  | ofIntent (intent : String)
  | text (value : String)

/-- `content_id`. -/
abbrev ContentId := Content → String

/-- mirrors outcomes.py:57-65 -/
def sourceId (contentId : ContentId) (e : BrokerEvent) : String :=
  contentId (.source e.accountId e.provider e.endpoint e.eventId)

/-- mirrors operational_costs.py:19-22 -/
def costContractConflictSource (contentId : ContentId) (accountId contractId : String) : String :=
  contentId (.costContractConflict contractId accountId)

end Quantbot.L4
