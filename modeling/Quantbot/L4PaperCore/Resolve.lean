import Quantbot.Core.VersionChain
import Quantbot.L4PaperCore.Certification
import Quantbot.L4PaperCore.Processing

/-!
# Resolving a lot

`_resolve` of `paper_core/outcomes.py`: the evidence a lot's round trip rests on, read
at a cutoff, and the round trip itself. The evidence is the closed orders of the lot
with their fills, the local refusals of its exits, a reconciliation proof that holds
all of its fills, the guardian receipt of its plan, and the current costs. Its hash
decides whether the round trip on record still stands; if not, the new one is the next
revision, whatever the cutoff.

Documents this store has no table for stand under their ids in `OutcomeViews`, as do
the two contributions of other modules: what an asset fee takes from a lot, and whether
a proof with quarantined symbols carries quantity authority for the others.
-/
namespace Quantbot.L4

open Core L1 L2 L3

/-! ## What is read -/

/-- The fields of `Decision` a resolution reads besides those of a claim. -/
structure DecisionTerms where
  policyId : String
  sourceStart : Option Int

/-- The fields of `ProtectionPlan` a resolution reads. -/
structure ProtectionPlan where
  decisionId : String
  owner : String
  generation : Nat
deriving DecidableEq

/-- `detail` of `CORE_LOCKED_SEND_AUTHORIZED` under the final send contract. -/
structure SendAuthorization where
  decisionId : String
  protectionId : String
  guardianReceiptId : String
deriving DecidableEq

/-- mirrors crypto_fee_allocation.py:92-97 -/
structure LotAssetFees where
  quantity : ℚ := 0
  allocationIds : List String := []
  sourceIds : List String := []

structure OutcomeViews where
  contentId : ContentId
  /-- The content id of the sources and fills a round trip rests on. -/
  stateHash : List String → List Fill → String
  terms : String → DecisionTerms
  /-- `source_start` of an observation on record. -/
  observationStart : String → Option Int
  plan? : String → Option ProtectionPlan
  authorization : OrderEventRow → Option SendAuthorization
  assetFees : CoreStore → String → Int → Except CoreError LotAssetFees
  scopedQuantity : CoreStore → ReconciliationProof → Bool

/-- `OutcomeIncomplete`, or any other error. -/
inductive Halt
  | incomplete (reason : String)
  | error (error : CoreError)

def Document.revision? : Document → Option RoundTrip
  | .revision t => some t
  | _ => none

namespace CoreStore

/-- The store without the work queue: all that a resolution reads. -/
def evidence (s : CoreStore) : CoreStore :=
  { s with work := .empty, notifications := .empty, journal := [] }

def revisions (s : CoreStore) : List (String × RoundTrip) := s.documentsOf Document.revision?

/-- The revisions of a lot. -/
def revisionsOf (s : CoreStore) (lot : String) : List RoundTrip :=
  (s.revisions.map (·.2)).filter fun t => decide (t.lotId = lot)

/-- mirrors outcomes.py:196-202 -/
def quarantinedLots (s : CoreStore) : List String :=
  s.incidents.rows.flatMap fun i =>
    if i.kind = "CORE_EVIDENCE_CONFLICT" then
      match i.detail with
      | .evidence _ _ _ lots _ _ => lots
      | _ => []
    else []

end CoreStore

/-! ## Orders and fills -/

/-- The source shows the order closed, with the activity of exactly these fills. -/
def ClosesOrder (order : BrokerOrder) (fills : List Fill) (cutoff : Int) (e : BrokerEvent) : Prop :=
  e.clientOrderId = order.clientOrderId ∧ e.order? = some order ∧ e.recordedAt ≤ cutoff ∧
    e.activityComplete = true ∧ SameIds e.activityFillIds (fills.map (·.fillId)) ∧
    e.activityFillIds.length = fills.length ∧
    ∃ w ∈ e.activityWatermark, ∀ f ∈ fills, f.occurredAt ≤ w
deriving Decidable

/-- The first source that closes a terminal order.
mirrors outcomes.py:420-443 -/
def terminalEvidence (s : CoreStore) (order : BrokerOrder) (cutoff : Int) : Option String :=
  if isOpenOrder order then none
  else if s.filled order.brokerOrderId ≠ order.filledQuantity then none
  else
    (((s.sources.filter fun p =>
      decide (ClosesOrder order (s.fillsOf order.brokerOrderId) cutoff p.2)).insertionSort
        fun a b => toLex (a.2.recordedAt, a.1) ≤ toLex (b.2.recordedAt, b.1)).map (·.1)).head?

/-- What the orders of a lot come to. -/
structure LotTrades where
  buys : List Fill := []
  sells : List Fill := []
  sourceIds : List String := []
  clients : List String := []

/-- The refusals that show an exit was never sent, up to the cutoff. -/
def localRefusals (s : CoreStore) (intentId : String) (asOf : Int) : List String :=
  if definitivelyUnsent s.toStore intentId then
    ((s.eventsOf intentId).filter fun e =>
      decide ((e.eventType = exitRefusal ∨ e.eventType = localNoSendType) ∧
        e.occurredAt ≤ asOf)).map (·.eventId)
  else []

/-- A link that was sent: its order, closed, with its fills.
mirrors outcomes.py:559-571 -/
def sentLink (s : CoreStore) (asOf : Int) (acc : LotTrades) (role : LinkRole)
    (clientOrderId : String) : Except Halt LotTrades :=
  match s.orderByClient clientOrderId with
  | none => .error (.incomplete "ORDER_UNAVAILABLE")
  | some order =>
    match terminalEvidence s order asOf with
    | none => .error (.incomplete "TERMINAL_ACTIVITY_WATERMARK_UNAVAILABLE")
    | some terminalId =>
      let fills := s.fillsOf order.brokerOrderId
      if ∃ f ∈ fills, asOf < f.occurredAt then .error (.incomplete "FILL_NOT_AVAILABLE")
      else
        let acc := { acc with sourceIds := acc.sourceIds ++ [terminalId] }
        .ok (match role with
          | .entry => { acc with buys := acc.buys ++ fills }
          | .exit => { acc with sells := acc.sells ++ fills })

/-- One link of the lot.
mirrors outcomes.py:542-571 -/
def tradeLink (s : CoreStore) (asOf : Int) (acc : LotTrades) (link : IntentLink) :
    Except Halt LotTrades :=
  match s.intentOf link with
  | none => .error (.error (.runtime "AssertionError"))
  | some intent =>
    let acc := { acc with clients := acc.clients ++ [intent.clientOrderId] }
    let refusals := if link.role = .exit then localRefusals s intent.intentId asOf else []
    if refusals ≠ [] then .ok { acc with sourceIds := acc.sourceIds ++ refusals }
    else sentLink s asOf acc link.role intent.clientOrderId

/-- Buys first at one instant, then by fill id. -/
def chronological (fills : List Fill) : List Fill :=
  let key := fun f : Fill =>
    toLex (f.occurredAt, toLex (if f.side = .buy then 0 else 1, f.fillId))
  fills.insertionSort fun a b => key a ≤ key b

/-- Sold before it was bought. -/
def goesShort : ℚ → List Fill → Bool
  | _, [] => false
  | inventory, f :: fs =>
    decide (inventory + f.signedQuantity < 0) || goesShort (inventory + f.signedQuantity) fs

/-! ## The proof -/

/-- mirrors outcomes.py:455-500 -/
def historicalQuantityProofAllowed (contentId : ContentId) (s : CoreStore) (proofId : String)
    (clients : List String) : Bool :=
  match s.revocations.get? ("core-certified-" ++ proofId) with
  | none => true
  | some ⟨_, .cashIncomplete⟩ => false
  | some ⟨_, .ledgerChanged ids⟩ => decide (ids ≠ []) && ids.all fun id =>
    match s.source? id with
    | none => false
    | some e => decide (sourceId contentId e = id ∧ e.accountId = s.config.accountId ∧
        e.clientOrderId ∉ clients)

/-- The certified proofs of the account that hold a fill, by receipt time and
generation; a preferred one comes first.
mirrors outcomes.py:503-508, 596-620 -/
def certifiedProofs (s : CoreStore) (table : Table Certification (·.proofId)) (fillId : String)
    (preferred : Option String) : List (String × ReconciliationProof) :=
  let certified := ((table.rows.filterMap fun c =>
    (s.proof? c.proofId).map fun p => (c.generation, c.proofId, p)).filter fun x =>
      decide (x.2.2.accountId = s.config.accountId ∧ fillId ∈ x.2.2.fillIds)).insertionSort
        fun a b => toLex (encodedKey a.2.2.recordedAt, a.1) ≤
          toLex (encodedKey b.2.2.recordedAt, b.1)
  let rows := certified.map (·.2)
  (rows.filter fun x => decide (some x.1 = preferred)) ++
    rows.filter fun x => decide (some x.1 ≠ preferred)

/-- The proof covers the lot's fills with quantity authority, by the cutoff.
mirrors outcomes.py:630-650 -/
def CoversLot (v : OutcomeViews) (s : CoreStore) (asOf : Int) (symbol : String)
    (fillIds : List String) (p : ReconciliationProof) : Prop :=
  p.recordedAt ≤ asOf ∧ (∀ f ∈ fillIds, f ∈ p.fillIds) ∧
    (if p.quarantinedSymbols ≠ [] ∧ symbol ∉ p.quarantinedSymbols ∧ QuantityScopeShapeValid p then
      v.scopedQuantity s.evidence p = true
    else p.complete = true ∧ p.actualQuantities = p.expectedQuantities)
deriving Decidable

/-- The first proof of each table that covers the lot. -/
def coveringProofs (v : OutcomeViews) (s : CoreStore) (asOf : Int) (trades : LotTrades)
    (symbol fillId : String) (preferred : Option String) : List (String × ReconciliationProof) :=
  let fillIds := (trades.buys ++ trades.sells).map (·.fillId)
  ((certifiedProofs s s.certifications fillId preferred).find? fun x =>
    historicalQuantityProofAllowed v.contentId s x.1 trades.clients &&
      decide (CoversLot v s asOf symbol fillIds x.2)).toList ++
  ((certifiedProofs s s.quantityCertifications fillId preferred).find? fun x =>
    decide (CoversLot v s asOf symbol fillIds x.2)).toList

/-- The retained proof, else the first by receipt time and generation.
mirrors outcomes.py:653-656 -/
def pickProof (proofs : List (String × ReconciliationProof)) (preferred : Option String) :
    Option (String × ReconciliationProof) :=
  (proofs.find? fun x => decide (some x.1 = preferred)).or
    (proofs.insertionSort fun a b => toLex (a.2.recordedAt, a.2.generation) ≤
      toLex (b.2.recordedAt, b.2.generation)).head?

/-! ## The guardian's receipt -/

/-- The receipts that name the plan. -/
def historicalReceipts (s : CoreStore) (planId : String) : List (String × GuardianReceipt) :=
  (s.documentsOf Document.receipt?).filter fun x => decide (planId ∈ x.2.protectionIds)

/-- The receipt was in force before the send.
mirrors outcomes.py:689-720 -/
def HandsOff (v : OutcomeViews) (s : CoreStore) (entry : IntentLink) (plan : ProtectionPlan)
    (buys : List Fill) (x : String × GuardianReceipt) : Prop :=
  x.2.owner = plan.owner ∧ x.2.generation = plan.generation ∧
    (if s.config.evidenceLane = .brokerPaper then
      ∃ e ∈ s.eventsOf entry.intentId, e.eventType = "CORE_LOCKED_SEND_AUTHORIZED" ∧
        v.authorization e = some ⟨entry.decisionId, entry.protectionId, x.1⟩ ∧
        x.2.recordedAt ≤ e.occurredAt ∧ e.occurredAt < x.2.validUntil
    else ∃ t ∈ (buys.map (·.occurredAt)).min?, x.2.recordedAt ≤ t ∧ t < x.2.validUntil)
deriving Decidable

/-- mirrors outcomes.py:723 -/
def handoff (v : OutcomeViews) (s : CoreStore) (entry : IntentLink) (plan : ProtectionPlan)
    (buys : List Fill) : Option String :=
  ((((historicalReceipts s entry.protectionId).filter fun x =>
    decide (HandsOff v s entry plan buys x)).insertionSort fun a b =>
      toLex (a.2.recordedAt, a.1) ≤ toLex (b.2.recordedAt, b.1)).map (·.1)).head?

/-! ## Costs -/

/-- The current cost of a fill's component by a cutoff.
mirrors costs.py:15-31 -/
def costAt (s : CoreStore) (cutoff : Int) (fillId : String) (component : CostComponent) :
    Option CostItem :=
  latest (·.revision) ((s.costs.map (·.2)).filter fun c =>
    decide (c.fillId = fillId ∧ c.component = component ∧ c.recordedAt ≤ cutoff))

/-- The costs allocated to the lot's fills. -/
def allocatedCosts (s : CoreStore) (cutoff : Int) (fills : List Fill) : List CostItem :=
  fills.flatMap fun f =>
    (costAt s cutoff f.fillId .fee).toList ++ (costAt s cutoff f.fillId .modeledSlippage).toList

/-- Every fill has its actual fee. -/
def feesActual (s : CoreStore) (cutoff : Int) (fills : List Fill) : Bool :=
  fills.all fun f => (actualFee f (costAt s cutoff f.fillId .fee)).isSome

/-! ## The evidence -/

/-- What a round trip rests on. -/
structure LotEvidence where
  sources : List String
  fills : List Fill
  proofId : String
  policyId : String
  complete : Bool
  recordedStart : Option Int
  sourceStart : Int
  sourceEnd : Int

def isCrypto (buys : List Fill) : Bool :=
  match buys.head? with
  | some f => f.symbol.endsWith "/USD"
  | none => false

/-- What other tables take from a crypto lot. -/
def lotFees (v : OutcomeViews) (s : CoreStore) (lot : String) (asOf : Int) (trades : LotTrades) :
    Except Halt LotAssetFees :=
  if isCrypto trades.buys then
    match v.assetFees s.evidence lot asOf with
    | .ok fees => .ok fees
    | .error e => .error (.error e)
  else .ok {}

/-- The part behind the fills: proof, plan, receipt and costs.
mirrors outcomes.py:592-757 -/
def authorize (v : OutcomeViews) (s : CoreStore) (asOf : Int) (preferred : Option String)
    (entry : IntentLink) (trades : LotTrades) (fees : LotAssetFees) (buy sell : Fill) :
    Except Halt LotEvidence :=
  let fills := trades.buys ++ trades.sells
  let firstSell := ((trades.sells.map (·.fillId)).min?).getD sell.fillId
  match pickProof (coveringProofs v s asOf trades buy.symbol firstSell preferred) preferred with
  | none => .error (.incomplete "OWNED_FLAT_RECONCILIATION_UNAVAILABLE")
  | some (proofId, _) =>
    match s.decision? entry.decisionId, v.plan? entry.protectionId with
    | some decision, some plan =>
      if plan.decisionId ≠ entry.decisionId ∨ plan.owner ≠ s.config.owner then
        .error (.error (.store (.stateConflict "protection authority mismatch")))
      else
        match handoff v s entry plan trades.buys with
        | none => .error (.incomplete "PRESEND_GUARDIAN_HANDOFF_UNAVAILABLE")
        | some receiptId =>
          let start := (v.terms entry.decisionId).sourceStart.or
            (v.observationStart decision.observationId)
          let sources := trades.sourceIds ++ fees.allocationIds ++ fees.sourceIds ++
            fills.map (·.fillId) ++ (allocatedCosts s asOf fills).map (v.contentId <| .cost ·) ++
            [entry.protectionId, receiptId, proofId]
          .ok
            { sources := sources.insertionSort (· ≤ ·)
              fills := fills.insertionSort fun a b => a.fillId ≤ b.fillId
              proofId := proofId
              policyId := (v.terms entry.decisionId).policyId
              complete := feesActual s asOf fills &&
                !(isCrypto trades.buys && decide (s.config.evidenceLane = .brokerPaper))
              recordedStart := start
              sourceStart := start.getD (((trades.buys.map (·.occurredAt)).min?).getD
                buy.occurredAt)
              sourceEnd := ((trades.sells.map (·.occurredAt)).max?).getD sell.occurredAt }
    | _, _ => .error (.error .noResult)

/-- The evidence of a lot by a cutoff, the retained proof preferred.
mirrors outcomes.py:511-757 -/
def lotEvidence (v : OutcomeViews) (s : CoreStore) (lot : String) (asOf : Int)
    (preferred : Option String) : Except Halt LotEvidence :=
  if lot ∈ s.quarantinedLots then .error (.incomplete "SOURCE_EVIDENCE_QUARANTINED")
  else
    let links := s.links.rows.filter fun l => decide (l.lotId = lot)
    match links.filter fun l => decide (l.role = .entry) with
    | [entry] => do
      let trades ← (links.insertionSort fun a b => a.intentId ≤ b.intentId).foldlM
        (tradeLink s asOf) {}
      let fees ← lotFees v s lot asOf trades
      let quantity := (trades.buys.map (·.quantity)).sum - (trades.sells.map (·.quantity)).sum -
        fees.quantity
      match trades.buys, trades.sells with
      | buy :: _, sell :: _ =>
        if quantity ≠ 0 then .error (.incomplete "NONEMPTY_OWNED_FLAT_UNAVAILABLE")
        else if goesShort 0 (chronological (trades.buys ++ trades.sells)) then
          .error (.error (.store (.stateConflict
            "owned exit exceeds chronological owned entry")))
        else authorize v s asOf preferred entry trades fees buy sell
      | _, _ => .error (.incomplete "NONEMPTY_OWNED_FLAT_UNAVAILABLE")
    | _ => .error (.incomplete "ENTRY_OWNERSHIP_UNAVAILABLE")

/-! ## The round trip -/

/-- mirrors outcomes.py:798-806 -/
def datasetOf (lane : EvidenceLane) (recordedStart : Option Int) : String :=
  match recordedStart, lane with
  | none, _ => "LEGACY_WINDOW_UNAVAILABLE"
  | some _, .brokerPaper => "ALPACA_PAPER_OWNED"
  | some _, .localSimRealData => "LOCAL_SIM_REAL_DATA"
  | some _, .syntheticTest => "EXPLICIT_SYNTHETIC"

/-- The revision behind the latest one.
mirrors outcomes.py:764-810 -/
def nextRevision (v : OutcomeViews) (s : CoreStore) (lot : String) (asOf : Int)
    (previous : Option RoundTrip) (e : LotEvidence) : RoundTrip where
  lotId := lot
  reconciliationId := e.proofId
  status := if e.complete then "COMPLETE" else "COSTS_PENDING"
  revision := (previous.map (·.revision)).getD 0 + 1
  supersedes := previous.map fun t => v.contentId (.roundTrip t)
  recordedAt := asOf
  sourceStart := e.sourceStart
  sourceEnd := e.sourceEnd
  availableAt := asOf
  dataset := datasetOf s.config.evidenceLane e.recordedStart
  policyId := e.policyId
  sourceStateHash := v.stateHash e.sources e.fills

/-- The latest revision of a lot. -/
def CoreStore.previousOutcome (s : CoreStore) (lot : String) : Option RoundTrip :=
  latest (·.revision) (s.revisionsOf lot)

/-- The latest revision while its evidence stands, else the next one.
mirrors outcomes.py:511-811 -/
def resolve (v : OutcomeViews) : Resolver := fun s lot asOf =>
  let previous := s.previousOutcome lot
  match lotEvidence v s lot asOf (previous.map (·.reconciliationId)) with
  | .error (.incomplete reason) => .ok (.incomplete reason)
  | .error (.error e) => .error e
  | .ok e =>
    match previous with
    | some t =>
      if t.sourceStateHash = v.stateHash e.sources e.fills then .ok (.trip t)
      else .ok (.trip (nextRevision v s lot asOf previous e))
    | none => .ok (.trip (nextRevision v s lot asOf previous e))

section Evidence

variable (v : OutcomeViews) (s : CoreStore)

@[simp] theorem evidence_toStore : s.evidence.toStore = s.toStore := rfl

@[simp] theorem evidence_intentOf (l : IntentLink) : s.evidence.intentOf l = s.intentOf l := rfl

@[simp] theorem evidence_quarantinedLots : s.evidence.quarantinedLots = s.quarantinedLots := rfl

@[simp] theorem evidence_links : s.evidence.links = s.links := rfl

@[simp] theorem terminalEvidence_evidence (order : BrokerOrder) (cutoff : Int) :
    terminalEvidence s.evidence order cutoff = terminalEvidence s order cutoff := rfl

@[simp] theorem localRefusals_evidence (intentId : String) (asOf : Int) :
    localRefusals s.evidence intentId asOf = localRefusals s intentId asOf := rfl

@[simp] theorem sentLink_evidence (asOf : Int) (acc : LotTrades) (role : LinkRole)
    (client : String) : sentLink s.evidence asOf acc role client = sentLink s asOf acc role client := by
  unfold sentLink; rw [evidence_toStore]
  cases s.orderByClient client with
  | none => rfl
  | some order =>
    dsimp only; rw [terminalEvidence_evidence]

@[simp] theorem tradeLink_evidence (asOf : Int) : tradeLink s.evidence asOf = tradeLink s asOf := by
  funext acc link; unfold tradeLink; rw [evidence_intentOf]
  cases s.intentOf link with
  | none => rfl
  | some intent =>
    dsimp only; rw [localRefusals_evidence, sentLink_evidence]

@[simp] theorem lotFees_evidence (lot : String) (asOf : Int) (trades : LotTrades) :
    lotFees v s.evidence lot asOf trades = lotFees v s lot asOf trades := rfl

@[simp] theorem authorize_evidence (asOf : Int) (preferred : Option String) (entry : IntentLink)
    (trades : LotTrades) (fees : LotAssetFees) (buy sell : Fill) :
    authorize v s.evidence asOf preferred entry trades fees buy sell =
      authorize v s asOf preferred entry trades fees buy sell := by
  unfold authorize; rfl

theorem lotEvidence_evidence (lot : String) (asOf : Int) (preferred : Option String) :
    lotEvidence v s.evidence lot asOf preferred = lotEvidence v s lot asOf preferred := by
  unfold lotEvidence
  simp only [evidence_quarantinedLots, evidence_links, tradeLink_evidence, lotFees_evidence,
    authorize_evidence]

theorem resolve_evidence (lot : String) (asOf : Int) :
    resolve v s.evidence lot asOf = resolve v s lot asOf := by
  have hprevious : s.evidence.previousOutcome lot = s.previousOutcome lot := rfl
  have hnext : nextRevision v s.evidence = nextRevision v s := rfl
  unfold resolve; dsimp only; rw [hprevious, lotEvidence_evidence, hnext]

end Evidence

theorem resolve_trip {v : OutcomeViews} {s : CoreStore} {lot : String} {asOf : Int}
    {trip : RoundTrip} (h : resolve v s lot asOf = .ok (.trip trip)) :
    s.previousOutcome lot = some trip ∨ ∃ e,
      lotEvidence v s lot asOf ((s.previousOutcome lot).map (·.reconciliationId)) = .ok e ∧
      (∀ t, s.previousOutcome lot = some t → t.sourceStateHash ≠ v.stateHash e.sources e.fills) ∧
      trip = nextRevision v s lot asOf (s.previousOutcome lot) e := by
  unfold resolve at h; dsimp only at h; split at h
  · cases h
  · cases h
  next e he =>
  cases hprevious : s.previousOutcome lot with
  | none =>
    rw [hprevious] at h he; cases h; refine .inr ⟨e, he, fun t ht => ?_, rfl⟩
    cases ht
  | some t =>
    rw [hprevious] at h he; dsimp only at h; split at h
    · cases h; exact .inl rfl
    next hne =>
    cases h; refine .inr ⟨e, he, fun t' ht' => ?_, rfl⟩
    rw [← Option.some.inj ht']; exact hne

end Quantbot.L4
