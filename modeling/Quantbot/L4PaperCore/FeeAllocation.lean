import Mathlib.Tactic.MkIffOfInductiveProp
import Quantbot.Core.StoredTime
import Quantbot.L4PaperCore.FeeEvidence
import Quantbot.L4PaperCore.Resolve

/-!
# Fee allocation

`paper_core/crypto_fee_allocation.py`: the writer that gives the fee activities of an order
query to the order's lot, and the reader that verifies every allocation of a lot again from
the stored rows.

The kinds of `core_document_index` this code keeps are tables of their own. An index row is
found by the text of its time, a document or an event carries the time itself.
-/
namespace Quantbot.L4.Fees

open Core Txn L1 L2

/-! ## The store -/

/-- A row of `core_document_index`. -/
structure IndexRow where
  id : String
  reference : String
  availableAt : Int
deriving DecidableEq

abbrev IndexTable := Table IndexRow (·.id)

structure FeeDocRow where
  id : String
  payload : FeeDocument
deriving DecidableEq

/-- What an owner event written for an allocation carries besides the fee
(`baseline_binding = ORDER_FILTER_POST_BASELINE`). -/
structure RelativeBinding where
  orderId : String
  queryDocumentId : String
  baselineId : String
  lotId : String
  recognizedAt : Int
deriving DecidableEq

/-- The payload of a row of `core_external_owner_events`. -/
structure OwnerEvent where
  eventId : String
  symbol : String
  owner : String
  quantityDelta : ℚ
  netCash : Option ℚ
  sourceDocument : String
  accountId : String
  occurredAt : Option Int
  activityType : String
  assetCurrency : Option String
  rawDigest : Option String
  binding : Option RelativeBinding
deriving DecidableEq

structure OwnerEventRow where
  id : String
  payload : OwnerEvent
deriving DecidableEq

/-- The fields of a runtime commission the basis reads. -/
structure Commission where
  id : String
  approvedAt : Int
deriving DecidableEq

/-- The paper core with the fee documents. `commission` is what `commission_in_session`
answers; `tripAssetFees` the fee allocations a closed round trip counted. -/
structure FeeStore where
  core : CoreStore
  storeIdentity : String
  configId : String
  commission : Option Commission := none
  baselineAccountId : String
  tripAssetFees : List (String × List String) := []
  acquisitions : Table FeeDocRow (·.id) := .empty
  ownerEvents : Table OwnerEventRow (·.id) := .empty
  queryCursors : IndexTable := .empty
  rotations : IndexTable := .empty
  activityIndex : IndexTable := .empty
  allocationIndex : IndexTable := .empty
  gapIndex : IndexTable := .empty
deriving DecidableEq

abbrev FeeTxn := Txn FeeStore CoreError

def conflict {α : Type} (message : String) : Except CoreError α :=
  .error (.store (.stateConflict message))

/-- What a reader answers, or raises. -/
def reads {α : Type} (f : FeeStore → Except CoreError α) : FeeTxn α := fun s =>
  match f s with
  | .ok a => .ok a s
  | .error e => .error e s

@[simp] theorem reads_ok {α : Type} {f : FeeStore → Except CoreError α} {s s' : FeeStore} {a : α} :
    reads f s = .ok a s' ↔ f s = .ok a ∧ s' = s := by
  unfold reads; cases f s <;> simp [eq_comm]

def onCore {α : Type} (x : CoreTxn α) : FeeTxn α :=
  Txn.zoom FeeStore.core (fun s c => { s with core := c }) id x

namespace FeeStore

def account (s : FeeStore) : String := s.core.config.accountId

/-- mirrors crypto_fee_allocation.py:115-124 -/
def binding (s : FeeStore) : Binding where
  evidenceLane := s.core.config.evidenceLane
  releaseId := s.core.config.releaseId
  accountId := s.account
  storeIdentity := s.storeIdentity
  configId := s.configId
  policyId := s.core.config.policyId

def document? (s : FeeStore) (id : String) : Option FeeDocument :=
  (s.acquisitions.get? id).map (·.payload)

end FeeStore

variable (contentId : FeeContentId)

/-! ## The basis of an entry -/

/-- What an entry's basis is read from, besides the commission. -/
structure EntryFacts where
  entries : List IntentLink
  intent : Option OrderIntent
  order : Option BrokerOrder
  fills : List Fill
  terminal : Option String
  baselines : List Baseline

def entryIntent (s : CoreStore) (lot : String) : Option OrderIntent :=
  match s.links.rows.filter fun l => l.lotId = lot ∧ l.role = .entry with
  | [entry] => s.intentOf entry
  | _ => none

def entryOrder (s : CoreStore) (lot : String) : Option BrokerOrder :=
  (entryIntent s lot).bind fun intent => s.orderByClient intent.clientOrderId

/-- The state of an intent is no part of its basis. -/
def entryFacts (s : CoreStore) (lot : String) (at' : Int) : EntryFacts where
  entries := s.links.rows.filter fun l => l.lotId = lot ∧ l.role = .entry
  intent := (entryIntent s lot).map (·.withState .riskApproved)
  order := entryOrder s lot
  fills := (entryOrder s lot).elim [] fun o => s.fillsOf o.brokerOrderId
  terminal := (entryOrder s lot).bind fun o => terminalEvidence s o at'
  baselines := s.baselines

/-- What keeps the entry's symbol from being the core's alone.
mirrors crypto_fee_allocation.py:178-210 -/
def exclusiveObjection (s : FeeStore) (lot symbol : String) : Option String :=
  if s.core.orderIntents.rows.any fun i => i.symbol = symbol ∧ i.strategyId ≠ s.core.config.owner ∧
      definitivelyUnsent s.core.toStore i.intentId = false then some "CRYPTO_FEE_FOREIGN_OWNER"
  else
    let open' := (s.core.linkedIntents.filter fun p => p.1.role = .entry ∧ p.2.symbol = symbol ∧
      s.core.roundTrips.get? p.1.lotId = none ∧
      definitivelyUnsent s.core.toStore p.2.intentId = false).map (·.1.lotId)
    if s.core.roundTrips.get? lot = none ∧ ¬ (open' ≠ [] ∧ ∀ l ∈ open', l = lot) then
      some "CRYPTO_FEE_AMBIGUOUS_LOTS"
    else if s.ownerEvents.rows.any fun e =>
        e.payload.symbol = symbol ∧ e.payload.owner ≠ "ACCOUNT_CRYPTO_FEE" then
      some "CRYPTO_FEE_FOREIGN_OWNER"
    else none

/-- The basis of the facts of an entry.
mirrors crypto_fee_allocation.py:129-177, 211-224 -/
def basisOf (config : CoreConfig) (commission : Option Commission) (baselineAccountId : String)
    (lot : String) (at' : Int) (f : EntryFacts) : Except CoreError OwnedFeeBasis :=
  if f.entries.length ≠ 1 then conflict "CRYPTO_FEE_ENTRY_OWNERSHIP_UNVERIFIED"
  else match commission with
  | none => conflict "CORE_RUNTIME_UNCOMMISSIONED"
  | some commission =>
    match f.intent, f.order with
    | some intent, some order =>
      if intent.strategyId ≠ config.owner ∨ intent.side ≠ .buy ∨ endsWithUsd intent.symbol = false ∨
          (order.symbol, order.side, order.quantity, order.timeInForce, order.orderType) ≠
            (intent.symbol, intent.side, intent.quantity, intent.timeInForce, intent.orderType) ∨
          ¬ (commission.approvedAt < intent.createdAt ∧ intent.createdAt ≤ order.submittedAt ∧
            order.submittedAt ≤ at') then conflict "CRYPTO_FEE_ENTRY_OWNERSHIP_UNVERIFIED"
      else match f.terminal with
      | none => conflict "CRYPTO_FEE_ENTRY_FILLS_UNVERIFIED"
      | some terminal =>
        if f.fills = [] ∨ (f.fills.map (·.quantity)).sum ≠ order.filledQuantity ∨
            f.fills.any (fun x => x.symbol ≠ intent.symbol ∨ x.side ≠ .buy ∨
              ¬ (commission.approvedAt < x.occurredAt ∧ x.occurredAt ≤ at')) then
          conflict "CRYPTO_FEE_ENTRY_FILLS_UNVERIFIED"
        else match f.baselines with
        | [baseline] =>
          if baselineAccountId ≠ config.accountId ∨
              (baseline.quantities.reverse.lookup intent.symbol).getD 0 ≠ 0 then
            conflict "CRYPTO_FEE_BASELINE_UNVERIFIED"
          else .ok
            { lotId := lot
              intentId := intent.intentId
              orderId := order.brokerOrderId
              symbol := intent.symbol
              baselineId := baseline.id
              baselineAt := commission.approvedAt
              commissionId := commission.id
              orderDigest := contentId (.order order)
              fillIds := (f.fills.map (·.fillId)).insertionSort (· ≤ ·)
              boughtQuantity := order.filledQuantity
              terminalSourceId := terminal }
        | _ => .error .noResult
    | _, _ => conflict "CRYPTO_FEE_ENTRY_OWNERSHIP_UNVERIFIED"

/-- mirrors crypto_fee_allocation.py:126-224 -/
def entryBasis (s : FeeStore) (lot : String) (at' : Int) (exclusive : Bool) :
    Except CoreError OwnedFeeBasis :=
  match basisOf contentId s.core.config s.commission s.baselineAccountId lot at'
      (entryFacts s.core lot at') with
  | .error e => .error e
  | .ok basis =>
    match if exclusive then exclusiveObjection s lot basis.symbol else none with
    | some objection => conflict objection
    | none => .ok basis

/-! ## Checks the writer and the reader share -/

/-- The rows of a page carry ids of their own and no other order. -/
def rowsValid (orderId : String) : List String → List RawActivity → Bool
  | _, [] => true
  | seen, raw :: rest =>
    match raw.textId with
    | none => false
    | some id => decide (id ∉ seen) && raw.orderId.all (· = orderId) &&
        rowsValid orderId (id :: seen) rest

/-- Full pages in token order, the last one short. -/
def pagesValid (orderId : String) : Option String → List String → List OrderFeeQueryPage → Bool
  | _, _, [] => true
  | token, seen, page :: rest =>
    decide (page.pageToken = token) && decide (page.rows.length ≤ 100) &&
      (if rest = [] then decide (page.rows.length < 100) else decide (page.rows.length = 100)) &&
      rowsValid orderId seen page.rows &&
      pagesValid orderId (page.rows.getLast?.bind RawActivity.textId)
        (page.rows.filterMap RawActivity.textId ++ seen) rest

/-- mirrors crypto_fee_allocation.py:347-386 -/
def queryValid (s : FeeStore) (source : OrderFeeQueryEvidence) : Bool :=
  decide (source.protocolComplete = true ∧ source.objections = [] ∧ source.pages ≠ [] ∧
    source.pages.length ≤ 4 ∧ source.rawDigest = contentId (.pages source.pages) ∧
    source.requestOrderId = source.basis.orderId ∧ source.binding.accountId = s.account ∧
    source.binding.storeIdentity = s.storeIdentity ∧ source.binding.configId = s.configId ∧
    source.binding.releaseId = s.core.config.releaseId ∧
    source.binding.evidenceLane = s.core.config.evidenceLane) &&
  (source.symbolAliases.all fun p => (p.1 = p.2 ∨
    p.1 = String.ofList (p.2.toList.filter (· ≠ '/'))) ∧ endsWithUsd p.2) &&
  pagesValid source.requestOrderId none [] source.pages

/-- mirrors crypto_fee_allocation.py:389-401 -/
def feeValid (fee : CryptoFeeActivity) (basis : OwnedFeeBasis) : Prop :=
  fee.activityType = "CFEE" ∧ fee.symbol = some basis.symbol ∧
    fee.assetCurrency = some (baseAsset basis.symbol) ∧ (∃ q ∈ fee.quantityDelta, q < 0) ∧
    fee.netCash = 0 ∧ fee.status = some "executed" ∧ (∀ o ∈ fee.orderId, o = basis.orderId) ∧
    (∀ f ∈ fee.fillId, f ∈ basis.fillIds) ∧ ∀ t ∈ fee.effectiveAt, basis.baselineAt < t
deriving Decidable

/-- mirrors crypto_fee_allocation.py:404-405 -/
def externalId (account activityId : String) : String :=
  contentId (.external account activityId "ACCOUNT_CRYPTO_FEE")

/-- mirrors crypto_fee_allocation.py:687-699 -/
def externalMatches (e : OwnerEvent) (fee : CryptoFeeActivity) (account : String) : Prop :=
  e.eventId = fee.activityId ∧ e.accountId = account ∧ e.owner = "ACCOUNT_CRYPTO_FEE" ∧
    fee.symbol = some e.symbol ∧ fee.quantityDelta = some e.quantityDelta ∧ e.netCash = some 0 ∧
    e.rawDigest = some fee.rawDigest ∧ e.assetCurrency = fee.assetCurrency ∧
    e.activityType = "CFEE"
deriving Decidable

def parse (raw : RawActivity) (aliases : List (String × String)) (sourceId : String) :
    Except CoreError CryptoFeeActivity :=
  (parseFeeActivity contentId raw aliases sourceId).mapError fun e => .brokerProtocol e.text

/-! ## The reader -/

def unverified : String := "CRYPTO_FEE_ALLOCATION_UNVERIFIED"

/-- A document of the kind that is expected, under its own id.
mirrors crypto_fee_allocation.py:333-344 -/
def document {α : Type} (s : FeeStore) (id : String) (kind : FeeDocument → Option α) :
    Except CoreError α :=
  match s.document? id with
  | none => conflict unverified
  | some d =>
    match kind d with
    | none => conflict unverified
    | some a => if contentId (.document d) = id then .ok a else conflict unverified

def FeeDocument.query? : FeeDocument → Option OrderFeeQueryEvidence
  | .query q => some q
  | _ => none

def FeeDocument.fee? : FeeDocument → Option CryptoFeeActivity
  | .fee f => some f
  | _ => none

def FeeDocument.allocation? : FeeDocument → Option OrderFeeAllocation
  | .allocation a => some a
  | _ => none

def sourceRows (source : OrderFeeQueryEvidence) : List RawActivity :=
  source.pages.flatMap (·.rows)

/-- An event written for an allocation names the allocation; any other names none. -/
def relativeValid (e : OwnerEvent) (lot orderId sourceId baselineId : String)
    (recordedAt : Int) : Prop :=
  ∀ b ∈ e.binding, b.lotId = lot ∧ b.orderId = orderId ∧ b.queryDocumentId = sourceId ∧
    b.baselineId = baselineId ∧ e.occurredAt = none ∧ b.recognizedAt = recordedAt
deriving Decidable

/-- An allocation with what it was verified against. -/
structure VerifiedFee where
  id : String
  allocation : OrderFeeAllocation
  fee : CryptoFeeActivity
  basis : OwnedFeeBasis
deriving DecidableEq

/-- What every field of an allocation is held against. -/
@[mk_iff]
structure Verifies (s : FeeStore) (lot : String) (asOf : Int) (id : String)
    (a : OrderFeeAllocation) (source : OrderFeeQueryEvidence) (fee : CryptoFeeActivity)
    (basis : OwnedFeeBasis) (raw : RawActivity) (parsed : CryptoFeeActivity) (e : OwnerEvent) :
    Prop where
  queried : queryValid contentId s source = true
  based : source.basis = basis
  charged : feeValid fee basis
  ordered : source.recordedAt ≤ a.recordedAt ∧ a.recordedAt ≤ asOf
  effective : ∀ t ∈ fee.effectiveAt, t ≤ source.recordedAt
  lotId : a.lotId = lot
  orderId : a.orderId = basis.orderId
  quantity : fee.quantityDelta = some (-a.quantity)
  symbol : a.symbol = basis.symbol
  currency : fee.assetCurrency = some a.assetCurrency
  activity : a.activityId = fee.activityId
  bound : a.binding.accountId = s.account ∧ a.binding.storeIdentity = s.storeIdentity ∧
    a.binding.configId = s.configId ∧ a.binding.releaseId = s.core.config.releaseId
  assigned : (s.activityIndex.get? (contentId (.activity s.account fee.activityId))).map
    (·.reference) = some id
  digest : contentId (.raw raw) = fee.rawDigest
  read : parsed.reading = fee.reading
  externalId : a.externalEventId = externalId contentId s.account fee.activityId
  relative : relativeValid e lot basis.orderId a.queryDocumentId basis.baselineId a.recordedAt
  external : externalMatches e fee s.account

instance (s : FeeStore) (lot : String) (asOf : Int) (id : String) (a : OrderFeeAllocation)
    (source : OrderFeeQueryEvidence) (fee : CryptoFeeActivity) (basis : OwnedFeeBasis)
    (raw : RawActivity) (parsed : CryptoFeeActivity) (e : OwnerEvent) :
    Decidable (Verifies contentId s lot asOf id a source fee basis raw parsed e) :=
  decidable_of_iff' _ (verifies_iff contentId s lot asOf id a source fee basis raw parsed e)

/-- mirrors crypto_fee_allocation.py:716-778 -/
def verifyAllocation (s : FeeStore) (lot : String) (asOf : Int) (id : String) :
    Except CoreError VerifiedFee := do
  let a ← document contentId s id FeeDocument.allocation?
  let source ← document contentId s a.queryDocumentId FeeDocument.query?
  let fee ← document contentId s a.feeDocumentId FeeDocument.fee?
  let basis ← entryBasis contentId s lot source.recordedAt false
  match (sourceRows source).filter fun raw => raw.id = .text fee.activityId with
  | [raw] => do
    let parsed ← parse contentId raw source.symbolAliases a.queryDocumentId
    match s.ownerEvents.get? a.externalEventId with
    | some e =>
      if Verifies contentId s lot asOf id a source fee basis raw parsed e.payload then
        pure ⟨id, a, fee, basis⟩
      else conflict unverified
    | none => conflict unverified
  | _ => conflict unverified

/-- mirrors crypto_fee_allocation.py:93-98 -/
structure LotAssetFees where
  quantity : ℚ := 0
  allocationIds : List String := []
  feeIds : List String := []
  sourceIds : List String := []
  externalEventIds : List String := []
deriving DecidableEq

/-- mirrors crypto_fee_allocation.py:779-785 -/
def LotAssetFees.add (t : LotAssetFees) (v : VerifiedFee) : Except CoreError LotAssetFees :=
  if v.basis.boughtQuantity < t.quantity + v.allocation.quantity ∨ v.fee.activityId ∈ t.feeIds then
    conflict unverified
  else .ok
    { quantity := t.quantity + v.allocation.quantity
      allocationIds := t.allocationIds ++ [v.id]
      feeIds := t.feeIds ++ [v.fee.activityId]
      sourceIds := t.sourceIds ++ ([v.allocation.queryDocumentId, v.allocation.feeDocumentId,
        v.basis.terminalSourceId] ++ v.basis.fillIds)
      externalEventIds := t.externalEventIds ++ [v.allocation.externalEventId] }

def tally (s : FeeStore) (lot : String) (asOf : Int) (t : LotAssetFees) :
    List String → Except CoreError LotAssetFees
  | [] => .ok t
  | id :: rest => do
    let v ← verifyAllocation contentId s lot asOf id
    let t ← t.add v
    tally s lot asOf t rest

/-- The allocations of a lot the index shows as of a time. -/
def shown (s : FeeStore) (lot : String) (asOf : Int) : List IndexRow :=
  s.allocationIndex.rows.filter fun r =>
    r.reference = lot ∧ textRank r.availableAt ≤ textRank asOf

/-- An event written for an allocation of the lot that the index does not show. -/
def orphaned (s : FeeStore) (lot : String) (asOf : Int) (externalIds : List String) : Bool :=
  s.ownerEvents.rows.any fun e => e.payload.binding.any fun b =>
    b.lotId = lot ∧ b.recognizedAt ≤ asOf ∧ e.id ∉ externalIds

def LotAssetFees.sorted (t : LotAssetFees) : LotAssetFees where
  quantity := t.quantity
  allocationIds := t.allocationIds.insertionSort (· ≤ ·)
  feeIds := t.feeIds.insertionSort (· ≤ ·)
  sourceIds := t.sourceIds.dedup.insertionSort (· ≤ ·)
  externalEventIds := t.externalEventIds.insertionSort (· ≤ ·)

/-- mirrors crypto_fee_allocation.py:702-806 -/
def lotAssetFees (s : FeeStore) (lot : String) (asOf : Int) : Except CoreError LotAssetFees := do
  let t ← tally contentId s lot asOf {} ((shown s lot asOf).map (·.id))
  if orphaned s lot asOf t.externalEventIds then conflict unverified else pure t.sorted

/-! ## Writes -/

/-- A document under its content id; one that is stored already must be it. -/
def putFee (d : FeeDocument) : FeeTxn PUnit := fun s =>
  match s.acquisitions.get? (contentId (.document d)) with
  | some existing =>
    if existing.payload = d then .ok ⟨⟩ s
    else .error (.store (.stateConflict
      ("conflicting immutable core_provider_acquisitions " ++ contentId (.document d)))) s
  | none => .ok ⟨⟩ { s with acquisitions := s.acquisitions.insert ⟨contentId (.document d), d⟩ }

def moveFeeCursor (c : SourceCursor) : FeeTxn PUnit :=
  modify fun s => { s with core := { s.core with sourceCursors := s.core.sourceCursors.upsert c } }

/-- mirrors crypto_costs.py:154-191 -/
def retainFeeActivity (evidence : CryptoFeeActivity) (receivedAt : Int) :
    FeeTxn CryptoFeeActivity := do
  let s ← get
  let key := contentId (.feeCursor s.account evidence.activityId)
  let stored : SourceCursor := ⟨key, receivedAt, contentId (.document (.fee evidence))⟩
  match s.core.sourceCursors.get? key with
  | some cursor =>
    match (s.document? cursor.eventId).bind FeeDocument.fee? with
    | none => throw .noResult
    | some old =>
      require (old.rawDigest = evidence.rawDigest ∧
        ¬ (old.symbol.isSome ∧ evidence.symbol.isSome ∧ old.symbol ≠ evidence.symbol))
        (.store (.stateConflict "FEE_ACTIVITY_CONFLICT"))
      if old.symbol.isSome ∨ evidence.symbol = none then pure old
      else do
        moveFeeCursor stored
        putFee contentId (.fee evidence)
        pure evidence
  | none =>
    moveFeeCursor stored
    putFee contentId (.fee evidence)
    pure evidence

/-- The event, and what the ledger reads of it.
mirrors alpaca_adapter.py:1457-1479 -/
def recordExternal (e : OwnerEvent) : FeeTxn PUnit := fun s =>
  let id := contentId (.external e.accountId e.eventId e.owner)
  match s.ownerEvents.get? id with
  | some previous =>
    if { previous.payload with sourceDocument := "" } = { e with sourceDocument := "" } then
      .ok ⟨⟩ s
    else .error (.store (.stateConflict "EXTERNAL_OWNER_ACTIVITY_CONFLICT")) s
  | none => .ok ⟨⟩
      { s with
        ownerEvents := s.ownerEvents.insert ⟨id, e⟩
        core := { s.core with
          externalEvents := s.core.externalEvents ++ [⟨e.symbol, e.quantityDelta, e.netCash⟩] } }

/-- An index row under a key that is not there. -/
def insertActivity (r : IndexRow) : FeeTxn PUnit := fun s =>
  if s.activityIndex.get? r.id = none then
    .ok ⟨⟩ { s with activityIndex := s.activityIndex.insert r }
  else .error (.integrity "pk_core_document_index") s

def insertAllocation (r : IndexRow) : FeeTxn PUnit := fun s =>
  if s.allocationIndex.get? r.id = none then
    .ok ⟨⟩ { s with allocationIndex := s.allocationIndex.insert r }
  else .error (.integrity "pk_core_document_index") s

def insertGap (r : IndexRow) : FeeTxn PUnit := fun s =>
  if s.gapIndex.get? r.id = none then .ok ⟨⟩ { s with gapIndex := s.gapIndex.insert r }
  else .error (.integrity "pk_core_document_index") s

/-- The incident of a fee that a closed lot did not count. -/
def lateFeeIncident (trip : RoundTrip) (a : OrderFeeAllocation)
    (persisted : Bool) : IncidentRow where
  incidentId := "core-evidence-" ++
    contentId (.incident (contentId (.trip trip)) a.feeDocumentId)
  severity := "ERROR"
  kind := "CORE_EVIDENCE_CONFLICT"
  message := "LATE_ASSET_FEE_CONTRADICTS_CLOSED_QUANTITY"
  occurredAt := a.recordedAt
  detail := .evidence [] []
    ((if persisted then [contentId (.document (.allocation a))] else []) ++
      [a.queryDocumentId, a.feeDocumentId, contentId (.trip trip)])
    [a.lotId] false ["OWNERSHIP", "OUTCOME"]

/-- mirrors crypto_fee_allocation.py:578-628 -/
def quarantineClosedFee (a : OrderFeeAllocation) (persisted : Bool) : FeeTxn Bool := do
  let s ← get
  match s.core.roundTrips.get? a.lotId with
  | none => pure false
  | some trip =>
    if contentId (.document (.allocation a)) ∈ (s.tripAssetFees.lookup a.lotId).getD [] then
      pure false
    else
      let incident := lateFeeIncident contentId trip.payload a persisted
      if (s.core.incidents.get? incident.incidentId).isSome then pure true
      else do
        let _ ← onCore (onLedger (createIncident incident))
        onCore (modify fun c => { c with
          outcomeIndex := setOutcomeStatus "INTEGRITY_FAILURE" c.outcomeIndex a.lotId })
        onCore (dirty [a.lotId] (some a.recordedAt) false)
        pure true

/-! ## The writer -/

/-- What a fee of an order query is allocated as. -/
def allocationOf (s : FeeStore) (sourceId : String) (basis : OwnedFeeBasis)
    (fee : CryptoFeeActivity) (recordedAt : Int) (q : ℚ) (hq : q < 0) : OrderFeeAllocation where
  recordedAt := recordedAt
  binding := s.binding
  lotId := basis.lotId
  orderId := basis.orderId
  symbol := basis.symbol
  assetCurrency := fee.assetCurrency.getD ""
  quantity := -q
  activityId := fee.activityId
  feeDocumentId := contentId (.document (.fee fee))
  queryDocumentId := sourceId
  externalEventId := externalId contentId s.account fee.activityId
  quantity_pos := neg_pos.2 hq

/-- The owner event an allocation is recorded with. -/
def allocationEvent (s : FeeStore) (sourceId : String) (basis : OwnedFeeBasis)
    (fee : CryptoFeeActivity) (recordedAt : Int) (q : ℚ) : OwnerEvent where
  eventId := fee.activityId
  symbol := basis.symbol
  owner := "ACCOUNT_CRYPTO_FEE"
  quantityDelta := q
  netCash := some 0
  sourceDocument := fee.sourceDocumentId
  accountId := s.account
  occurredAt := none
  activityType := "CFEE"
  assetCurrency := fee.assetCurrency
  rawDigest := some fee.rawDigest
  binding := some
    { orderId := basis.orderId
      queryDocumentId := sourceId
      baselineId := basis.baselineId
      lotId := basis.lotId
      recognizedAt := recordedAt }

/-- The owner event of a fee: one that is there has to match it.
mirrors crypto_fee_allocation.py:520-548 -/
def ownFee (sourceId : String) (basis : OwnedFeeBasis) (fee : CryptoFeeActivity)
    (recordedAt : Int) (q : ℚ) : FeeTxn PUnit := do
  let s ← get
  match s.ownerEvents.get? (externalId contentId s.account fee.activityId) with
  | some previous =>
    require (externalMatches previous.payload fee s.account)
      (.store (.stateConflict "CRYPTO_FEE_ALLOCATION_CONFLICT"))
  | none => recordExternal contentId (allocationEvent s sourceId basis fee recordedAt q)

/-- The allocation, its two index rows, and the lot's notification or quarantine.
mirrors crypto_fee_allocation.py:549-572 -/
def fileAllocation (a : OrderFeeAllocation) : FeeTxn PUnit := do
  let s ← get
  let id := contentId (.document (.allocation a))
  putFee contentId (.allocation a)
  insertActivity ⟨contentId (.activity s.account a.activityId), id, a.recordedAt⟩
  insertAllocation ⟨id, a.lotId, a.recordedAt⟩
  let quarantined ← quarantineClosedFee contentId a true
  if quarantined = true then pure ⟨⟩
  else onCore (dirty [a.lotId] (some a.recordedAt) false)

/-- Allocate a valid fee that no lot has.
mirrors crypto_fee_allocation.py:490-573 -/
def allocate (sourceId : String) (basis : OwnedFeeBasis) (fee : CryptoFeeActivity)
    (recordedAt : Int) (q : ℚ) (hq : q < 0) : FeeTxn (Option String) := do
  let s ← get
  let a := allocationOf contentId s sourceId basis fee recordedAt q hq
  let existing ← reads fun s => lotAssetFees contentId s basis.lotId recordedAt
  if basis.boughtQuantity < existing.quantity - q then do
    let quarantined ← quarantineClosedFee contentId a false
    require (quarantined = true)
      (.store (.stateConflict "CRYPTO_FEE_QUANTITY_EXCEEDS_OWNED_BUY"))
    pure none
  else do
    ownFee contentId sourceId basis fee recordedAt q
    fileAllocation contentId a
    pure (some (contentId (.document (.allocation a))))

/-- mirrors crypto_fee_allocation.py:461-489 -/
def allocateRow (source : OrderFeeQueryEvidence) (basis : OwnedFeeBasis) (recordedAt : Int)
    (raw : RawActivity) : FeeTxn (Option String) := do
  let sourceId := contentId (.document (.query source))
  let read ← reads fun _ => parse contentId raw source.symbolAliases sourceId
  let fee ← retainFeeActivity contentId read recordedAt
  if ¬ feeValid fee basis ∨ ∃ t ∈ fee.effectiveAt, source.recordedAt < t then pure none
  else do
    let s ← get
    match s.activityIndex.get? (contentId (.activity s.account fee.activityId)) with
    | some assigned =>
      let old ← reads fun s => document contentId s assigned.reference FeeDocument.allocation?
      require (old.lotId = basis.lotId ∧ old.orderId = basis.orderId ∧
        fee.quantityDelta = some (-old.quantity))
        (.store (.stateConflict "CRYPTO_FEE_ALLOCATION_CONFLICT"))
      pure none
    | none =>
      match fee.quantityDelta with
      | none => pure none
      | some q =>
        if hq : q < 0 then allocate contentId sourceId basis fee recordedAt q hq else pure none

def allocateRows (source : OrderFeeQueryEvidence) (basis : OwnedFeeBasis) (recordedAt : Int) :
    List RawActivity → FeeTxn (List String)
  | [] => pure []
  | raw :: rest => do
    let added ← allocateRow contentId source basis recordedAt raw
    let more ← allocateRows source basis recordedAt rest
    pure (added.toList ++ more)

/-- A repeated query stands for the document it repeats. -/
def sourceOf (s : FeeStore) (incoming : OrderFeeQueryEvidence) :
    Except CoreError OrderFeeQueryEvidence :=
  match s.queryCursors.get?
      (contentId (.queryCursor s.account s.storeIdentity incoming.requestOrderId)) with
  | none => .ok incoming
  | some cursor => do
    let old ← document contentId s cursor.reference FeeDocument.query?
    pure (if { old with recordedAt := 0 } = { incoming with recordedAt := 0 } then old
      else incoming)

/-- The query's cursor and the lot's place in the rotation. -/
def moveCursors (source : OrderFeeQueryEvidence) (recordedAt : Int) : FeeTxn PUnit :=
  modify fun s => { s with
    queryCursors := s.queryCursors.upsert
      ⟨contentId (.queryCursor s.account s.storeIdentity source.requestOrderId),
        contentId (.document (.query source)), recordedAt⟩
    rotations := s.rotations.upsert ⟨source.basis.lotId, source.requestOrderId, recordedAt⟩ }

/-- mirrors crypto_fee_allocation.py:424-460 -/
def retainSource (incoming : OrderFeeQueryEvidence) (recordedAt : Int) :
    FeeTxn (List String) := do
  let source ← reads fun s => sourceOf contentId s incoming
  putFee contentId (.query source)
  moveCursors contentId source recordedAt
  let s ← get
  if queryValid contentId s source = false then pure []
  else do
    let basis ← reads fun s => entryBasis contentId s source.basis.lotId source.recordedAt true
    require (basis = source.basis ∧ source.recordedAt ≤ recordedAt)
      (.store (.stateConflict unverified))
    allocateRows contentId source basis recordedAt
      ((sourceRows source).filter fun raw => raw.activityType = some "CFEE")

def retainSources (recordedAt : Int) : List OrderFeeQueryEvidence → FeeTxn (List String)
  | [] => pure []
  | incoming :: rest => do
    let added ← retainSource contentId incoming recordedAt
    let more ← retainSources recordedAt rest
    pure (added ++ more)

/-- Whether only lots closed for two days could have bought the symbol. -/
def searchedTooLate (s : FeeStore) (symbol : String) (at' : Int) : Bool :=
  let bound := textRank (at' - 2 * 86400 * second)
  let matching := (s.core.linkedIntents.filter fun p => p.1.role = .entry ∧
    p.2.strategyId = s.core.config.owner ∧
    (p.2.symbol = symbol ∨ String.ofList (p.2.symbol.toList.filter (· ≠ '/')) = symbol)).map
      (·.1.lotId)
  let ended := fun lot => (s.core.outcomeIndex.get? lot).map fun o => textRank o.sourceEnd
  !(matching.any fun lot => s.core.roundTrips.get? lot = none ∨ ∃ e ∈ ended lot, bound ≤ e) &&
    matching.any fun lot => ∃ e ∈ ended lot, e < bound

/-- mirrors crypto_fee_allocation.py:631-684 -/
def recordGap (at' : Int) (raw : RawActivity) : FeeTxn PUnit := do
  let s ← get
  match raw.anyId, truthy raw.symbol with
  | some id, some symbol =>
    let key := contentId (.activity s.account id)
    if raw.activityType = some "CFEE" ∧ s.activityIndex.get? key = none ∧
        s.gapIndex.get? key = none ∧ searchedTooLate s symbol at' = true then do
      let gap : FeeAllocationGap := ⟨at', s.binding, id, symbol, contentId (.raw raw),
        at' - 2 * 86400 * second⟩
      putFee contentId (.gap gap)
      insertGap ⟨key, contentId (.document (.gap gap)), at'⟩
  | _, _ => pure ⟨⟩

/-- mirrors crypto_fee_allocation.py:410-575 -/
def retainOrderFeeAllocations (sources : List OrderFeeQueryEvidence) (recordedAt : Int)
    (observedRows : List RawActivity) : FeeTxn (List String) := do
  let added ← retainSources contentId recordedAt sources
  observedRows.forM (recordGap contentId recordedAt)
  pure added

end Quantbot.L4.Fees
