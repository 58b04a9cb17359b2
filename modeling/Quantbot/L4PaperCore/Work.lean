import Mathlib.Data.List.Dedup
import Quantbot.L4PaperCore.Schema

/-!
# Bounded outcome work

`paper_core/work.py` and `put` of `paper_core/store.py`. `dirty` gives a lot's
work row a new version and moves its notification watermark: the watermark is
*known* while every notification so far carried a source time, *unknown* from
the first one that did not. `coveredVersion` asks whether a cutoff has seen all
of it; over an unknown watermark it measures the evidence on record instead and
writes the answer back.
-/
namespace Quantbot.L4

open Core L1 L2 Txn

/-! ## Evidence times -/

/-- `decode_utc(stamp).replace(microsecond=0) + timedelta(seconds=1)`. -/
def nextSecond (t : Int) : Int := (t / 1000000 + 1) * 1000000

theorem le_nextSecond (t : Int) : t ≤ nextSecond t := by
  unfold nextSecond; omega

namespace CoreStore

/-- Receipt times of the broker events indexed under the lot's client ids. -/
def sourceTimes (s : CoreStore) (lot : String) : List Int :=
  (s.sources.filter fun p => decide (p.2.clientOrderId ∈ s.clientsOf lot)).map (·.2.recordedAt)

/-- Receipt times of the cost items indexed under the lot's fills. -/
def costTimes (s : CoreStore) (lot : String) : List Int :=
  (s.costs.filter fun p => decide (p.2.fillId ∈ s.ownedFills lot)).map (·.2.recordedAt)

/-- Receipt times of the proofs indexed under the account. -/
def proofTimes (s : CoreStore) : List Int :=
  (s.proofs.filter fun p => decide (p.2.accountId = s.config.accountId)).map (·.2.recordedAt)

/-- The receipt the publication pointer names. -/
def currentReceipt (s : CoreStore) : Option GuardianReceipt := s.guardianCurrent.bind s.receipt?

/-- The receipt times on record that concern a lot. -/
def evidenceTimes (s : CoreStore) (lot : String) : List Int :=
  s.sourceTimes lot ++ s.costTimes lot ++ s.proofTimes ++
    (s.currentReceipt.map (·.recordedAt)).toList ++ ((s.decision? lot).map (·.recordedAt)).toList

/-- ENTRY lots without a round trip. -/
def pending (s : CoreStore) : List String :=
  (s.links.rows.filter fun l =>
    decide (l.role = .entry) && (s.roundTrips.get? l.lotId).isNone).map (·.lotId)

end CoreStore

/-! ## Marking work dirty -/

/-- The version a `dirty` call gives the lot. -/
def nextVersion : Option WorkRow → Nat
  | none => 1
  | some w => w.version + 1

/-- The watermark so far is known, so a call with a source time keeps it known. -/
def knownSoFar (previous : Option WorkRow) (watermark : Option Watermark) (initialClaim : Bool) :
    Bool :=
  match previous with
  | none => initialClaim
  | some w => decide (watermark.map (·.reference) = some (.known w.version))

/-- The watermark `dirty` writes for one lot. -/
def nextWatermark (previous : Option WorkRow) (watermark : Option Watermark)
    (availableAt : Option Int) (initialClaim : Bool) (lot : String) : Watermark where
  lotId := lot
  reference :=
    if availableAt.isSome ∧ knownSoFar previous watermark initialClaim then
      .known (nextVersion previous)
    else .unknown (nextVersion previous)
  availableAt := (availableAt.toList ++ (watermark.bind (·.availableAt)).toList).max?

/-- The work row `dirty` writes for one lot. -/
def nextWork (previous : Option WorkRow) (lot : String) : WorkRow :=
  match previous with
  | none => ⟨lot, 1, 0, none⟩
  | some w => { w with version := w.version + 1 }

@[simp] theorem nextWork_version (previous : Option WorkRow) (lot : String) :
    (nextWork previous lot).version = nextVersion previous := by
  cases previous <;> rfl

/-- One lot of a `dirty` call.
mirrors work.py:132-160 -/
def dirtyLot (availableAt : Option Int) (initialClaim : Bool) (s : CoreStore) (lot : String) :
    CoreStore :=
  { s with
    notifications := s.notifications.upsert
      (nextWatermark (s.work.get? lot) (s.notifications.get? lot) availableAt initialClaim lot)
    work := s.work.upsert (nextWork (s.work.get? lot) lot)
    journal := s.journal ++ [⟨lot, availableAt, s.evidenceTimes lot⟩] }

/-- mirrors work.py:96-177 -/
def dirty (lots : List String) (availableAt : Option Int) (initialClaim : Bool) :
    CoreTxn PUnit :=
  modify fun s => (lots.dedup.insertionSort (· ≤ ·)).foldl (dirtyLot availableAt initialClaim) s

/-! ## Documents -/

namespace CoreStore

/-- Lots of the links whose intent has the client id. -/
def lotsOfClient (s : CoreStore) (clientOrderId : String) : List String :=
  (s.linkedIntents.filter fun p => decide (p.2.clientOrderId = clientOrderId)).map (·.1.lotId)

/-- Lots of the links whose order holds the fill. -/
def lotsOfFill (s : CoreStore) (fillId : String) : List String :=
  (s.linkedIntents.filter fun p => s.fills.rows.any fun f =>
    decide (f.fillId = fillId) && match s.brokerOrders.get? f.brokerOrderId with
      | some o => decide (o.clientOrderId = p.2.clientOrderId)
      | none => false).map (·.1.lotId)

end CoreStore

/-- Publish a receipt unless a later one is current already. -/
def publishReceipt (identity : String) (receipt : GuardianReceipt) : CoreTxn PUnit := fun s =>
  match s.guardianCurrent with
  | none => .ok ⟨⟩ { s with guardianCurrent := some identity }
  | some previous =>
    match s.receipt? previous with
    | none => .error .noResult s
    | some old =>
      if old.recordedAt ≤ receipt.recordedAt then
        .ok ⟨⟩ { s with guardianCurrent := some identity }
      else .ok ⟨⟩ s

/-- mirrors work.py:273-324 -/
def notifyDocument (identity : String) : Document → CoreTxn PUnit
  | .receipt r => do
    publishReceipt identity r
    let s ← get
    dirty s.pending (some r.recordedAt) false
  | .proof p => do
    let s ← get
    dirty s.pending (some p.recordedAt) false
  | .cost c => do
    let s ← get
    dirty (s.lotsOfFill c.fillId) (some c.recordedAt) false
  | .source e => do
    let s ← get
    dirty (s.lotsOfClient e.clientOrderId) (some e.recordedAt) false
  | .cashActivity _ | .decision _ | .acquisition _ | .revision _ => pure ⟨⟩

/-- Insert a document that is not there; a stored one must equal it. Returns whether
it was inserted. -/
def insertDocument (identity : String) (document : Document) : CoreTxn Bool := fun s =>
  match s.documents.get? (document.kind, identity) with
  | some existing =>
    if existing.payload = document then .ok false s
    else .error (.store (.stateConflict
      ("conflicting immutable " ++ document.kind.table ++ " " ++ identity))) s
  | none => .ok true { s with documents := s.documents.insert ⟨identity, document⟩ }

/-- mirrors store.py:37-51 -/
def put (identity : String) (document : Document) : CoreTxn PUnit := do
  if ← insertDocument identity document then notifyDocument identity document

/-- mirrors work.py:380-384 -/
def revokedProof (proofId : String) (availableAt : Option Int) : CoreTxn PUnit := do
  let s ← get
  dirty ((s.roundTrips.rows.filter fun r =>
    decide (r.payload.reconciliationId = proofId)).map (·.id)) availableAt false
  let s ← get
  dirty s.pending availableAt false

/-! ## Coverage -/

/-- The times a cold acknowledgement is measured by, newest of each kind. -/
def coldTimes (s : CoreStore) (lot : String) : List Int :=
  ((s.sourceTimes lot).max?.map nextSecond).toList ++
  ((s.costTimes lot).max?.map nextSecond).toList ++
  (s.proofTimes.max?.map nextSecond).toList ++
  (s.currentReceipt.map fun r => nextSecond r.recordedAt).toList ++
  ((s.decision? lot).map (·.recordedAt)).toList ++
  ((s.notifications.get? lot).bind (·.availableAt)).toList

/-- mirrors work.py:180-259 -/
def coveredVersion (lot : String) (version : Nat) (cutoff : Int) : CoreTxn Bool := fun s =>
  let watermark := s.notifications.get? lot
  if watermark.map (·.reference) = some (.known version) then
    .ok (((watermark.bind (·.availableAt)).map fun t => decide (t ≤ cutoff)).getD false) s
  else
    match (coldTimes s lot).max? with
    | none => .ok false s
    | some latest =>
      .ok (decide (latest ≤ cutoff))
        { s with notifications := s.notifications.upsert ⟨lot, .known version, some latest⟩ }

end Quantbot.L4
