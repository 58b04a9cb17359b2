import Quantbot.L2Storage.Repository
import Quantbot.L4PaperCore.Contracts

/-!
# The paper-core store

`storage/core_schema.py` and `storage/core_recovery_schema.py` over the order
ledger: intent links, immutable documents, round trips, the outcome work queue
with its notification watermarks, source cursors, certifications and cash
revocations.

The rows of `core_document_index` are a function of the document they index
(`work.py:30-40`: the reference field and the receipt time), so a query through
the index reads the documents themselves; the notification rows of that index
are not, and stand as a table of their own.

`core_identities` binds a database to one configuration, so `config` is a part
of the store. `journal` is a ghost: one entry for each lot of each `dirty` call,
never read by the code.
-/
namespace Quantbot.L4

open Core L1 L2

inductive LinkRole | entry | exit
deriving DecidableEq, Repr

/-- A row of `core_intent_links`. -/
structure IntentLink where
  intentId : String
  decisionId : String
  protectionId : String
  observationId : String
  role : LinkRole
  lotId : String
deriving DecidableEq, Repr

/-! ## Documents -/

inductive DocKind
  | source | cost | cashActivity | proof | receipt | decision | acquisition | revision
deriving DecidableEq, Repr

/-- The table a document stands in. -/
def DocKind.table : DocKind → String
  | .source => "core_broker_event_sources"
  | .cost => "core_cost_items"
  | .cashActivity => "core_cash_activities"
  | .proof => "core_reconciliation_proofs"
  | .receipt => "core_guardian_receipts"
  | .decision => "core_decisions"
  | .acquisition => "core_provider_acquisitions"
  | .revision => "core_outcome_revisions"

inductive Document
  | source (event : BrokerEvent)
  | cost (item : CostItem)
  | cashActivity (activity : CashActivity)
  | proof (proof : ReconciliationProof)
  | receipt (receipt : GuardianReceipt)
  | decision (decision : Decision)
  | acquisition (refusal : AdmissionRefusal)
  | revision (trip : RoundTrip)
deriving DecidableEq

def Document.kind : Document → DocKind
  | .source _ => .source
  | .cost _ => .cost
  | .cashActivity _ => .cashActivity
  | .proof _ => .proof
  | .receipt _ => .receipt
  | .decision _ => .decision
  | .acquisition _ => .acquisition
  | .revision _ => .revision

namespace Document

def source? : Document → Option BrokerEvent
  | .source e => some e
  | _ => none

def cost? : Document → Option CostItem
  | .cost c => some c
  | _ => none

def cashActivity? : Document → Option CashActivity
  | .cashActivity a => some a
  | _ => none

def proof? : Document → Option ReconciliationProof
  | .proof p => some p
  | _ => none

def receipt? : Document → Option GuardianReceipt
  | .receipt r => some r
  | _ => none

def decision? : Document → Option Decision
  | .decision d => some d
  | _ => none

variable {d : Document}

@[simp] theorem source?_eq_some {e : BrokerEvent} :
    d.source? = some e ↔ d = .source e := by cases d <;> simp [source?]

@[simp] theorem cost?_eq_some {c : CostItem} :
    d.cost? = some c ↔ d = .cost c := by cases d <;> simp [cost?]

@[simp] theorem proof?_eq_some {p : ReconciliationProof} :
    d.proof? = some p ↔ d = .proof p := by cases d <;> simp [proof?]

@[simp] theorem receipt?_eq_some {r : GuardianReceipt} :
    d.receipt? = some r ↔ d = .receipt r := by cases d <;> simp [receipt?]

@[simp] theorem decision?_eq_some {x : Decision} :
    d.decision? = some x ↔ d = .decision x := by cases d <;> simp [decision?]

end Document

/-- A row of the document table of its payload's kind. -/
structure DocRow where
  id : String
  payload : Document
deriving DecidableEq

def DocRow.key (r : DocRow) : DocKind × String := (r.payload.kind, r.id)

/-! ## Outcome work -/

/-- A row of `core_outcome_work`. -/
structure WorkRow where
  lotId : String
  version : Nat
  processedVersion : Nat
  attemptedAt : Option Int
deriving DecidableEq, Repr

/-- The reference of a notification row: `str(version)` or `"unknown:" + str(version)`. -/
inductive WatermarkRef
  | known (version : Nat)
  | unknown (version : Nat)
deriving DecidableEq, Repr

/-- A notification row of `core_document_index`; no time is the empty text. -/
structure Watermark where
  lotId : String
  reference : WatermarkRef
  availableAt : Option Int
deriving DecidableEq, Repr

/-- Ghost: a `dirty` call for one lot, with the evidence times on record when it ran. -/
structure Notification where
  lotId : String
  availableAt : Option Int
  evidence : List Int
deriving DecidableEq, Repr

/-! ## Projections -/

/-- A row of `core_outcome_index`. -/
structure OutcomePointer where
  lotId : String
  outcomeId : String
  availableAt : Int
  sourceStart : Int
  sourceEnd : Int
  dataset : String
  policyId : String
  evidenceLane : EvidenceLane
  status : String
deriving DecidableEq, Repr

abbrev OutcomeTable := Table OutcomePointer (·.lotId)

def OutcomePointer.withStatus (p : OutcomePointer) (status : String) : OutcomePointer :=
  { p with status := status }

/-- `UPDATE core_outcome_index SET status = .. WHERE lot_id = ..`. -/
def setOutcomeStatus (status : String) (t : OutcomeTable) (lot : String) : OutcomeTable :=
  t.modify lot (·.withStatus status) fun _ h => h

theorem setOutcomeStatus_get? (status : String) (t : OutcomeTable) (lot other : String) :
    (setOutcomeStatus status t lot).get? other =
      if other = lot then (t.get? lot).map (·.withStatus status) else t.get? other :=
  Table.get?_modify t lot (·.withStatus status) (fun _ h => h) other

/-- A row of `core_round_trips`, under its lot. -/
structure RoundTripRow where
  id : String
  payload : RoundTrip
deriving DecidableEq

/-- A row of `core_source_cursors`. -/
structure SourceCursor where
  sourceId : String
  availableAt : Int
  eventId : String
deriving DecidableEq, Repr

/-- A row of `core_inventory_certifications` or `core_quantity_certifications`. -/
structure Certification where
  generation : Nat
  proofId : String
deriving DecidableEq, Repr

/-- `snapshot_id` of a full certification (store.py:534). -/
def Certification.snapshotId (c : Certification) : String := "core-certified-" ++ c.proofId

inductive RevocationReason
  | ledgerChanged (sourceIds : List String)
  | cashIncomplete
deriving DecidableEq, Repr

/-- A row of `core_cash_authority_revocations`. -/
structure Revocation where
  snapshotId : String
  reason : RevocationReason
deriving DecidableEq, Repr

/-- The fields of a frozen baseline the ledger and the certification read. -/
structure Baseline where
  id : String := ""
  quantities : List (String × ℚ)
  cash : ℚ
  averageEntryPrices : List (String × ℚ) := []
deriving DecidableEq

/-- The fields of an external owner event the ledger reads. -/
structure ExternalOwnerEvent where
  symbol : String
  quantityDelta : ℚ
  netCash : Option ℚ
deriving DecidableEq

/-- A row of `account_snapshots` with its `positions`. -/
structure AccountSnapshot where
  snapshotId : String
  account : Account
  positions : List Position
  capturedAt : Int
deriving DecidableEq

/-- A row of `reconciliation_runs` that a certification writes. -/
structure ReconciliationRun where
  reconciliationId : String
  recordedAt : Int
  coreProofId : String
  lane : EvidenceLane
deriving DecidableEq

/-! ## The store -/

structure CoreStore extends Store where
  config : CoreConfig
  links : Table IntentLink (·.intentId) := .empty
  documents : Table DocRow DocRow.key := .empty
  roundTrips : Table RoundTripRow (·.id) := .empty
  outcomeIndex : OutcomeTable := .empty
  work : Table WorkRow (·.lotId) := .empty
  notifications : Table Watermark (·.lotId) := .empty
  sourceCursors : Table SourceCursor (·.sourceId) := .empty
  certifications : Table Certification (·.proofId) := .empty
  quantityCertifications : Table Certification (·.proofId) := .empty
  revocations : Table Revocation (·.snapshotId) := .empty
  externalEvents : List ExternalOwnerEvent := []
  baselines : List Baseline := []
  accountSnapshots : Table AccountSnapshot (·.snapshotId) := .empty
  reconciliationRuns : Table ReconciliationRun (·.reconciliationId) := .empty
  guardianCurrent : Option String := none
  journal : List Notification := []
deriving DecidableEq

namespace CoreStore

/-- The document of a kind under an id. -/
def document (s : CoreStore) (kind : DocKind) (id : String) : Option Document :=
  (s.documents.get? (kind, id)).map (·.payload)

/-- The documents a projection accepts, with their ids, in storage order. -/
def documentsOf {α : Type} (s : CoreStore) (project : Document → Option α) : List (String × α) :=
  s.documents.rows.filterMap fun r => (project r.payload).map (r.id, ·)

def sources (s : CoreStore) : List (String × BrokerEvent) := s.documentsOf Document.source?

def costs (s : CoreStore) : List (String × CostItem) := s.documentsOf Document.cost?

def cashActivities (s : CoreStore) : List (String × CashActivity) :=
  s.documentsOf Document.cashActivity?

def proofs (s : CoreStore) : List (String × ReconciliationProof) := s.documentsOf Document.proof?

def source? (s : CoreStore) (id : String) : Option BrokerEvent :=
  (s.document .source id).bind Document.source?

def proof? (s : CoreStore) (id : String) : Option ReconciliationProof :=
  (s.document .proof id).bind Document.proof?

def receipt? (s : CoreStore) (id : String) : Option GuardianReceipt :=
  (s.document .receipt id).bind Document.receipt?

def decision? (s : CoreStore) (id : String) : Option Decision :=
  (s.document .decision id).bind Document.decision?

/-- The intent of a link. -/
def intentOf (s : CoreStore) (l : IntentLink) : Option OrderIntent := s.orderIntents.get? l.intentId

/-- Links with their intents (`core_intent_links JOIN order_intents`). -/
def linkedIntents (s : CoreStore) : List (IntentLink × OrderIntent) :=
  s.links.rows.filterMap fun l => (s.intentOf l).map (l, ·)

/-- Client order ids of a lot's intents. -/
def clientsOf (s : CoreStore) (lot : String) : List String :=
  (s.linkedIntents.filter fun p => decide (p.1.lotId = lot)).map (·.2.clientOrderId)

/-- Fill ids of the orders under those client ids. -/
def ownedFills (s : CoreStore) (lot : String) : List String :=
  (s.fills.rows.filter fun f =>
    match s.brokerOrders.get? f.brokerOrderId with
    | some o => decide (o.clientOrderId ∈ s.clientsOf lot)
    | none => false).map (·.fillId)

variable {s : CoreStore} {id : String}

theorem document_eq_some {kind : DocKind} {d : Document} :
    s.document kind id = some d ↔ ⟨id, d⟩ ∈ s.documents.rows ∧ d.kind = kind := by
  simp only [document, Option.map_eq_some_iff, Table.get?_eq_some, DocRow.key, Prod.mk.injEq]
  constructor
  · rintro ⟨⟨i, p⟩, ⟨hr, hk, hi⟩, hd⟩; subst hi hd; exact ⟨hr, hk⟩
  · rintro ⟨hr, hk⟩; exact ⟨⟨id, d⟩, ⟨hr, hk, rfl⟩, rfl⟩

theorem mem_documentsOf {α : Type} {project : Document → Option α} {a : α} :
    (id, a) ∈ s.documentsOf project ↔ ∃ d, ⟨id, d⟩ ∈ s.documents.rows ∧ project d = some a := by
  simp only [documentsOf, List.mem_filterMap, Option.map_eq_some_iff, Prod.mk.injEq]
  constructor
  · rintro ⟨⟨i, d⟩, hr, x, hx, hi, hxa⟩; subst hi hxa; exact ⟨d, hr, hx⟩
  · rintro ⟨d, hr, hx⟩; exact ⟨⟨id, d⟩, hr, a, hx, rfl, rfl⟩

theorem source?_eq_some {e : BrokerEvent} :
    s.source? id = some e ↔ ⟨id, .source e⟩ ∈ s.documents.rows := by
  simp [source?, Option.bind_eq_some_iff, document_eq_some, Document.kind]

theorem proof?_eq_some {p : ReconciliationProof} :
    s.proof? id = some p ↔ ⟨id, .proof p⟩ ∈ s.documents.rows := by
  simp [proof?, Option.bind_eq_some_iff, document_eq_some, Document.kind]

theorem receipt?_eq_some {r : GuardianReceipt} :
    s.receipt? id = some r ↔ ⟨id, .receipt r⟩ ∈ s.documents.rows := by
  simp [receipt?, Option.bind_eq_some_iff, document_eq_some, Document.kind]

theorem decision?_eq_some {d : Decision} :
    s.decision? id = some d ↔ ⟨id, .decision d⟩ ∈ s.documents.rows := by
  simp [decision?, Option.bind_eq_some_iff, document_eq_some, Document.kind]

theorem mem_sources {e : BrokerEvent} :
    (id, e) ∈ s.sources ↔ ⟨id, .source e⟩ ∈ s.documents.rows := by
  simp [sources, mem_documentsOf]

end CoreStore

/-! ## Transactions over it -/

/-- What a core transaction raises. `evidenceRejected` is the subclass of
`StateConflictError` that carries the implicated clients and sources; `noResult`
is `scalar_one` without a row; `keyError` is a dict without the key; `emptyMax` is `max` of an empty sequence; `integrity` is
a unique constraint of the schema. -/
inductive CoreError
  | store (error : StoreError)
  | evidenceRejected (reason : String) (clients sourceIds : List String)
  | brokerProtocol (message : String)
  | blocked (reasons : List String)
  | runtime (message : String)
  | noResult
  | keyError (key : String)
  | emptyMax
  | integrity (constraint : String)
deriving DecidableEq

abbrev CoreTxn := Txn CoreStore CoreError

/-- `str(error)` of the state conflicts an import handles; `none` for every other error. -/
def CoreError.conflict? : CoreError → Option String
  | .store (.stateConflict m) => some m
  | .evidenceRejected m _ _ => some m
  | _ => none

/-- A repository call within a core transaction. -/
def onLedger {α : Type} (x : Repo α) : CoreTxn α :=
  Txn.zoom CoreStore.toStore (fun s t => { s with toStore := t }) .store x

/-- `INSERT INTO core_intent_links`, with its two unique constraints
(core_schema.py:29-45). -/
def insertLink (link : IntentLink) : CoreTxn PUnit := fun s =>
  if s.links.get? link.intentId ≠ none then .error (.integrity "pk_core_intent_links") s
  else if link.role = .entry ∧
      ∃ l ∈ s.links.rows, l.role = .entry ∧ l.observationId = link.observationId then
    .error (.integrity "uq_core_entry_observation") s
  else .ok ⟨⟩ { s with links := s.links.insert link }

theorem insertLink_ok {link : IntentLink} {s s' : CoreStore} {u : PUnit}
    (h : insertLink link s = .ok u s') :
    s.links.get? link.intentId = none ∧ s' = { s with links := s.links.insert link } := by
  unfold insertLink at h; split at h
  · cases h
  next hnone =>
  split at h
  · cases h
  · cases h; exact ⟨not_not.1 hnone, rfl⟩

/-- `raise StateConflictError(message)` unless `c` holds. -/
abbrev requireCore (c : Prop) [Decidable c] (message : String) : CoreTxn PUnit :=
  Txn.require c (.store (.stateConflict message))

end Quantbot.L4
