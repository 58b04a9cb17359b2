import Quantbot.L3Execution.Acknowledgement
import Quantbot.L4PaperCore.Ledger

/-!
# Importing broker evidence

`import_broker_events` of `paper_core/outcomes.py`: one `BEGIN IMMEDIATE`
transaction over a batch of order snapshots, fills, costs and cash activities.
A batch that contradicts the durable ledger is rolled back whole; a second
transaction then records the rejected evidence.

The repository reads inside one event see the writes of the events before it, as
the session's reads do.
-/
namespace Quantbot.L4

open Core L1 L2 L3 Txn

/-- An execution-path call within a core transaction. -/
def onExec {α : Type} (x : Exec α) : CoreTxn α :=
  zoom CoreStore.toStore (fun s t => { s with toStore := t })
    (fun e => match e with
      | .store e => .store e
      | .brokerProtocol m => .brokerProtocol m
      | .blocked r => .blocked r
      | .runtime m => .runtime m) x

/-! ## Adoption of an order snapshot -/

/-- The states `_adopt` leaves alone. -/
def adoptSettled : List IntentState := [.filled, .cancelled, .expired, .rejected]

/-- The snapshot's row: saved when the client has none, else advanced. -/
def adoptOrder (intent : OrderIntent) (order : BrokerOrder) : Exec Bool := do
  let s ← get
  match s.orderByClient intent.clientOrderId with
  | none => stored (saveBrokerOrder order)
  | some old => do
    require (old.filledQuantity ≤ order.filledQuantity)
      (.store (.stateConflict "order filled quantity regressed"))
    stored (updateBrokerOrderLifecycle order)

/-- A send that may have happened has happened. -/
def adoptSent (intent : OrderIntent) : Exec OrderIntent :=
  if intent.state = .submitting ∨ intent.state = .submissionUnknown then
    stored (transitionOrderIntent intent.intentId .brokerAccepted intent.state)
  else pure intent

/-- The state the snapshot implies, unless the intent has settled. -/
def adoptTarget (intent : OrderIntent) (order : BrokerOrder) : Exec PUnit :=
  match ackTerminalTarget order with
  | none => pure ⟨⟩
  | some target =>
    if intent.state ∈ adoptSettled then pure ⟨⟩
    else do
      let _ ← stored (transitionOrderIntent intent.intentId target intent.state)
      pure ⟨⟩

/-- mirrors outcomes.py:68-89 -/
def adopt (intent : OrderIntent) (order : BrokerOrder) : Exec PUnit := do
  assertAckMatchesIntent intent order
  let _ ← adoptOrder intent order
  let current ← adoptSent intent
  adoptTarget current order

theorem adopt_evolves (intent : OrderIntent) (order : BrokerOrder) :
    Moves Evolves (adopt intent order) := by
  refine (Moves.require _ _).bind fun _ => Moves.bind ?_ fun _ => Moves.bind ?_ fun current => ?_
  · refine Moves.get.bind fun s => ?_; split
    · exact stored_evolves (saveBrokerOrder_evolves order)
    · exact (Moves.require _ _).bind fun _ =>
        stored_evolves (updateBrokerOrderLifecycle_evolves order)
  · exact Moves.ite (stored_evolves (transitionOrderIntent_evolves _ _ _)) (Moves.pure _)
  · unfold adoptTarget; split
    · exact Moves.pure _
    · refine Moves.ite (Moves.pure _) ?_
      exact (stored_evolves (transitionOrderIntent_evolves _ _ _)).bind fun _ => Moves.pure _

/-! ## Who a rejected event implicates -/

/-- `tuple(sorted(set(..)))`. -/
def sortedSet (l : List String) : List String := l.dedup.insertionSort (· ≤ ·)

/-- The client of the order a fill belongs to. -/
def CoreStore.clientOfFill (s : CoreStore) (f : Fill) : Option String :=
  (s.brokerOrders.get? f.brokerOrderId).map (·.clientOrderId)

/-- mirrors outcomes.py:101-122 -/
def implicatedClients (s : CoreStore) (event : BrokerEvent) : List String :=
  let fills : List Fill := match event.payload with
    | .fill f => f :: ((s.fills.get? f.fillId).map fillFromRow).toList
    | .cost c => ((s.fills.get? c.fillId).map fillFromRow).toList
    | _ => []
  let orders : List BrokerOrder := match event.payload with
    | .order o => (s.brokerOrders.get? o.brokerOrderId).toList
    | _ => []
  sortedSet (event.clientOrderId :: fills.filterMap s.clientOfFill ++ orders.map (·.clientOrderId))

/-! ## The payloads -/

/-- mirrors outcomes.py:267-279 -/
def importFill (intent : OrderIntent) (fill : Fill) : CoreTxn PUnit := do
  let s ← get
  match s.orderByClient intent.clientOrderId with
  | none => throw (.store (.stateConflict "fill ownership/chronology mismatch"))
  | some order => do
    requireCore (fill.brokerOrderId = order.brokerOrderId ∧ fill.symbol = intent.symbol ∧
        fill.side = intent.side ∧ order.submittedAt ≤ fill.occurredAt)
      "fill ownership/chronology mismatch"
    let _ ← onLedger (recordFill fill)
    pure ⟨⟩

/-- The cursor that records a contradiction of the cost's contract, if any. -/
def contradiction (contentId : ContentId) (s : CoreStore) (accountId : String)
    (cost : CostItem) : Option SourceCursor :=
  match cost.documentId with
  | some document =>
    if cost.source = .contractualZero ∧ document ≠ "" then
      s.sourceCursors.get? (costContractConflictSource contentId accountId document)
    else none
  | none => none

/-- mirrors outcomes.py:280-331 -/
def importCost (contentId : ContentId) (event : BrokerEvent) (intent : OrderIntent)
    (cost : CostItem) : CoreTxn PUnit := do
  let s ← get
  match (s.fills.get? cost.fillId).map fillFromRow, s.orderByClient intent.clientOrderId with
  | some fill, some order => do
    requireCore (fill.brokerOrderId = order.brokerOrderId) "cost has no exact owned fill"
    requireCore (cost.recordedAt = event.recordedAt)
      "cost availability does not match source receipt"
    requireCore (cost.effectiveStart ≤ fill.occurredAt ∧ fill.occurredAt ≤ cost.effectiveEnd)
      "cost authority does not apply to fill time"
    match contradiction contentId s event.accountId cost with
    | none => recordCost contentId cost fill
    | some cursor =>
      let refusal : AdmissionRefusal :=
        { accountId := event.accountId
          contractId := cost.documentId.getD ""
          sourceEventId := sourceId contentId event
          costId := contentId (.cost cost)
          fillId := fill.fillId
          clientOrderId := intent.clientOrderId
          firstConflictSource := cursor.eventId
          firstConflictAt := cursor.availableAt }
      put (contentId (.refusal refusal)) (.acquisition refusal)
  | _, _ => throw (.store (.stateConflict "cost has no exact owned fill"))

/-- The completeness checks of a cash activity (outcomes.py:336-351). -/
def CompleteActivity (s : CoreStore) (event : BrokerEvent) (activity : CashActivity) : Prop :=
  activity.complete ∧ activity.accountId = s.config.accountId ∧
    activity.evidenceLane = s.config.evidenceLane ∧ activity.releaseId = s.config.releaseId ∧
    (activity.movements.map (·.1)).Nodup ∧
    SameIds (activity.movements.map (·.1)) (s.listFills.map (·.fillId)) ∧
    activity.activityIds.length = s.listFills.length ∧ activity.activityIds.Nodup ∧
    activity.watermark ≤ activity.recordedAt ∧
    (∀ f ∈ s.listFills, f.occurredAt ≤ activity.watermark) ∧
    activity.recordedAt = event.recordedAt
deriving Decidable

/-- A movement pays for at least the fill's notional, or brings in at most that. -/
def MovementFits (activity : CashActivity) (fill : Fill) : Prop :=
  let amount := (Quantities.ofList activity.movements).value fill.fillId
  match fill.side with
  | .buy => amount ≤ -(fill.quantity * fill.price)
  | .sell => amount ≤ fill.quantity * fill.price ∧ 0 ≤ amount

instance (a : CashActivity) (f : Fill) : Decidable (MovementFits a f) := by
  unfold MovementFits
  cases f.side <;> infer_instance

/-- mirrors outcomes.py:332-371 -/
def importCashActivity (contentId : ContentId) (event : BrokerEvent) (activity : CashActivity) :
    CoreTxn PUnit := do
  let s ← get
  requireCore (CompleteActivity s event activity)
    "cash activity complete ownership watermark unavailable"
  requireCore (∀ f ∈ s.listFills, MovementFits activity f)
    "cash movement contradicts fill direction/notional"
  requireCore (∀ p ∈ s.cashActivities,
      SameIds (p.2.movements.map (·.1)) (activity.movements.map (·.1)) →
        p.2.movements = activity.movements)
    "conflicting cash activity; explicit correction required"
  put (contentId (.cashActivity activity)) (.cashActivity activity)

/-- Move the source's cursor to the latest receipt time, compared as text. -/
def advanceCursor (source : String) (availableAt : Int) (eventId : String) : CoreTxn PUnit :=
  modify fun s =>
    match s.sourceCursors.get? source with
    | none => { s with sourceCursors := s.sourceCursors.insert ⟨source, availableAt, eventId⟩ }
    | some current =>
      if encodedKey current.availableAt < encodedKey availableAt then
        { s with sourceCursors := s.sourceCursors.upsert ⟨source, availableAt, eventId⟩ }
      else s

/-! ## One event -/

/-- The event is bound to this store and corrects nothing. -/
def Bound (config : CoreConfig) (event : BrokerEvent) : Prop :=
  event.accountId = config.accountId ∧ event.evidenceLane = config.evidenceLane ∧
    event.releaseId = config.releaseId ∧ event.correctionOf = none
deriving Decidable

/-- The payload's own writes. -/
def importPayload (contentId : ContentId) (event : BrokerEvent) (intent : OrderIntent) :
    CoreTxn PUnit :=
  match event.payload with
  | .order o => onExec (adopt intent o)
  | .fill f => importFill intent f
  | .cost c => importCost contentId event intent c
  | .cashActivity a => importCashActivity contentId event a

/-- The body of the `try` for one event: its source id, or nothing for a replay.
mirrors outcomes.py:220-394 -/
def importEventBody (contentId : ContentId) (event : BrokerEvent) : CoreTxn (Option String) := do
  let s ← get
  requireCore (Bound s.config event) "source binding or correction authority mismatch"
  let identity := sourceId contentId event
  match s.source? identity with
  | some old =>
    if old.semantic = event.semantic then pure none
    else throw (.evidenceRejected "conflicting source event replay"
      (sortedSet (implicatedClients s event ++ implicatedClients s old)) [identity])
  | none =>
    match s.linkedClient event.clientOrderId with
    | none => throw (.store (.stateConflict "event has no accepted owned intent"))
    | some intent => do
      importPayload contentId event intent
      put identity (.source event)
      advanceCursor (contentId (.cursor event.provider event.accountId event.endpoint))
        event.recordedAt identity
      pure (some identity)

/-- The `except` clauses of one event.
mirrors outcomes.py:395-405 -/
def importEvent (contentId : ContentId) (event : BrokerEvent) : CoreTxn (Option String) := fun s =>
  match importEventBody contentId event s with
  | .ok r s' => .ok r s'
  | .error (.evidenceRejected reason clients sources) s' =>
    .error (.evidenceRejected reason clients sources) s'
  | .error (.store (.stateConflict m)) s' =>
    .error (.evidenceRejected m (implicatedClients s' event) [sourceId contentId event]) s'
  | .error (.brokerProtocol m) s' =>
    .error (.evidenceRejected ("broker evidence contradicts durable authority: " ++ m)
      (implicatedClients s' event) [sourceId contentId event]) s'
  | .error e s' => .error e s'

/-! ## The batch -/

/-- Import one event after another, in order; the source ids and receipt times of
those that were new. -/
def importAll (contentId : ContentId) :
    List BrokerEvent → List (String × Int) → CoreTxn (List (String × Int))
  | [], imported => pure imported
  | e :: es, imported => do
    match ← importEvent contentId e with
    | none => importAll contentId es imported
    | some identity => importAll contentId es (imported ++ [(identity, e.recordedAt)])

/-- Fills never exceed what the broker acknowledged (outcomes.py:406-418). -/
def checkFilled (contentId : ContentId) (events : List BrokerEvent) : CoreTxn PUnit := do
  let s ← get
  match s.listBrokerOrders.find? fun o => decide (o.filledQuantity < s.filled o.brokerOrderId) with
  | none => pure ⟨⟩
  | some order =>
    throw (.evidenceRejected "canonical fills exceed broker acknowledged quantity"
      [order.clientOrderId]
      ((events.filter fun e => decide (e.clientOrderId = order.clientOrderId)).map
        (sourceId contentId)))

/-- `sorted(events, key=..)`. -/
def ordered (events : List BrokerEvent) : List BrokerEvent :=
  events.insertionSort fun a b => a.rank ≤ b.rank

/-- mirrors outcomes.py:205-417 -/
def importEvents (contentId : ContentId) (events : List BrokerEvent) : CoreTxn (List String) :=
  immediate do
    let imported ← importAll contentId (ordered events) []
    checkFilled contentId events
    match (imported.map (·.2)).max? with
    | none => pure []
    | some latest => do
      revokeStaleCash contentId (imported.map (·.1)) latest
      pure (imported.map (·.1))

/-! ## Rejected evidence -/

/-- `word in text`. -/
def containsText (text word : String) : Bool :=
  text.toList.tails.any fun t => word.toList.isPrefixOf t

/-- The words that make a rejection a conflict. -/
def conflictWords : List String :=
  ["conflicting", "conflicts", "regressed", "contradicts", "exceed", "mismatch"]

/-- Clients and sources a rejection carries. -/
def CoreError.evidence : CoreError → List String × List String
  | .evidenceRejected _ clients sources => (clients, sources)
  | _ => ([], [])

/-- The authorities one disputed event bears on (outcomes.py:169-181). -/
def disputedAuthorities (e : BrokerEvent) : List String :=
  match e.payload with
  | .cost c => if c.source = .modeled then ["OUTCOME"] else ["CASH"]
  | .cashActivity _ => ["CASH"]
  | .order _ | .fill _ => ["CASH", "OWNERSHIP"]

/-- The transaction that records a rejected batch.
mirrors outcomes.py:141-192 -/
def rejectEvidence (contentId : ContentId) (events : List BrokerEvent) (error : CoreError)
    (reason : String) : CoreTxn PUnit :=
  immediate do
    let s ← get
    let clients := error.evidence.1
    let sourceIds := error.evidence.2
    let conflict := conflictWords.any (containsText reason)
    let lots := (s.linkedIntents.filter fun p =>
      decide (p.2.clientOrderId ∈ clients)).map (·.1.lotId)
    match (events.map (·.recordedAt)).max? with
    | none => throw .emptyMax
    | some latest => do
      let _ ← onLedger (createIncident
        { incidentId := "core-evidence-" ++ contentId (.rejection events reason)
          severity := "ERROR"
          kind := if conflict then "CORE_EVIDENCE_CONFLICT" else "CORE_EVIDENCE_REFUSED"
          message := reason
          occurredAt := latest
          detail := .evidence (events.map fun e => contentId (.event e)) (sortedSet clients)
            sourceIds (sortedSet lots) (events.any fun e => decide (e.accountId ≠ s.config.accountId))
            (sortedSet ((events.filter fun e =>
              decide (sourceId contentId e ∈ sourceIds)).flatMap disputedAuthorities)) })
      if conflict then do
        modify fun s => { s with
          outcomeIndex := lots.foldl (setOutcomeStatus "INTEGRITY_FAILURE") s.outcomeIndex }
        dirty lots (some latest) false
      else pure ⟨⟩

/-- Import a batch; on a conflict, roll back, record the evidence and re-raise.
mirrors outcomes.py:125-193 -/
def importBrokerEvents (contentId : ContentId) (events : List BrokerEvent) :
    CoreTxn (List String) := fun s =>
  match importEvents contentId events s with
  | .ok ids s' => .ok ids s'
  | .error e s' =>
    match e.conflict? with
    | none => .error e s'
    | some reason =>
      match rejectEvidence contentId events e reason s' with
      | .ok _ s'' => .error e s''
      | .error e' s'' => .error e' s''

end Quantbot.L4
