import Mathlib.Data.Prod.Lex
import Mathlib.Data.String.Basic
import Quantbot.L2Storage.Schema

/-!
# The storage repository

`StorageRepository` of `storage/repositories.py`, the calls the order flow makes:
each is a program over the store, with the checks and messages of the source.
Rows compare by value (`encode_decimal` writes one text for one number).

Beside each write stands one inversion lemma `.._ok` that says everything a call
that returns has done; proofs about callers use these and never unfold a call.
-/
namespace Quantbot.L2

open Core L1 Txn

/-! ## Order intents -/

def getOrderIntent (intentId : String) : Repo (Option OrderIntent) := fun s =>
  .ok (s.orderIntents.get? intentId) s

/-- The intent under a client order id (unique). -/
def Store.intentByClient (s : Store) (clientOrderId : String) : Option OrderIntent :=
  s.orderIntents.getAlt? clientOrderId

/-- mirrors repositories.py:1100-1125 -/
def createOrderIntent (intent : OrderIntent) : Repo Bool := fun s =>
  match s.orderIntents.get? intent.intentId with
  | some row =>
    if row = intent then .ok false s
    else .error (.stateConflict
      ("order intent " ++ intent.intentId ++ " conflicts with stored data")) s
  | none =>
    match s.intentByClient intent.clientOrderId with
    | some other => .error (.stateConflict ("client_order_id " ++ intent.clientOrderId ++
        " already belongs to intent " ++ other.intentId)) s
    | none => .ok true { s with orderIntents := s.orderIntents.insert intent }

/-- The store after a transition of one intent. -/
def Store.setState (s : Store) (intentId : String) (target : IntentState) : Store :=
  { s with orderIntents :=
      s.orderIntents.modify intentId (·.withState target) (fun _ h => h) fun _ => rfl }

/-- Compare-and-set of the state column.
mirrors repositories.py:1208-1235 -/
def transitionOrderIntent (intentId : String) (target expectedCurrent : IntentState) :
    Repo OrderIntent := fun s =>
  match s.orderIntents.get? intentId with
  | none => .error (.recordNotFound ("order intent not found: " ++ intentId)) s
  | some stored =>
    if stored.state ≠ expectedCurrent then
      .error (.stateConflict ("order intent " ++ intentId ++ " expected " ++
        expectedCurrent.value ++ ", found " ++ stored.state.value)) s
    else
      match transitionOrder expectedCurrent target with
      | .error e => .error (.invalidTransition e) s
      | .ok _ => .ok (stored.withState target) (s.setState intentId target)

/-- `TERMINAL_INTENT_STATES`. -/
def terminalIntentStates : List IntentState := [.filled, .rejected, .cancelled, .expired, .error]

/-- `list_unresolved_order_intents`; its callers do not depend on the order. -/
def Store.unresolvedIntents (s : Store) : List OrderIntent :=
  s.orderIntents.rows.filter fun i => decide (i.state ∉ terminalIntentStates)

/-! ## Broker orders -/

def getBrokerOrder (brokerOrderId : String) : Repo (Option BrokerOrder) := fun s =>
  .ok (s.brokerOrders.get? brokerOrderId) s

/-- The order under a client order id (unique). -/
def Store.orderByClient (s : Store) (clientOrderId : String) : Option BrokerOrder :=
  s.brokerOrders.getAlt? clientOrderId

/-- mirrors repositories.py:1237-1275 -/
def saveBrokerOrder (order : BrokerOrder) : Repo Bool := fun s =>
  match s.brokerOrders.get? order.brokerOrderId with
  | some existing =>
    if existing = order then .ok false s
    else .error (.stateConflict
      ("broker order " ++ order.brokerOrderId ++ " conflicts with stored data")) s
  | none =>
    match s.intentByClient order.clientOrderId with
    | none => .error (.stateConflict
        ("client_order_id " ++ order.clientOrderId ++ " does not match a stored intent")) s
    | some _ =>
      match s.orderByClient order.clientOrderId with
      | some linked => .error (.stateConflict ("client_order_id " ++ order.clientOrderId ++
          " already maps to broker order " ++ linked.brokerOrderId)) s
      | none => .ok true { s with brokerOrders := s.brokerOrders.insert order }

/-- The identity fields `update_broker_order_lifecycle` compares. -/
def SameIdentity (row order : BrokerOrder) : Prop :=
  row.clientOrderId = order.clientOrderId ∧ row.symbol = order.symbol ∧ row.side = order.side ∧
    row.orderType = order.orderType ∧ row.timeInForce = order.timeInForce ∧
    row.quantity = order.quantity
deriving Decidable

/-- The lifecycle fields it overwrites. -/
def SameLifecycle (row order : BrokerOrder) : Prop :=
  row.status = order.status ∧ row.filledQuantity = order.filledQuantity ∧
    row.filledAveragePrice = order.filledAveragePrice ∧ row.submittedAt = order.submittedAt
deriving Decidable

/-- Overwrite the lifecycle columns of a stored order. With the identity columns
equal to the incoming ones, the row becomes the incoming order.
mirrors repositories.py:1277-1322 -/
def updateBrokerOrderLifecycle (order : BrokerOrder) : Repo Bool := fun s =>
  match s.brokerOrders.get? order.brokerOrderId with
  | none => .error (.recordNotFound ("broker order not found: " ++ order.brokerOrderId)) s
  | some row =>
    if ¬ SameIdentity row order then
      .error (.stateConflict ("broker order " ++ order.brokerOrderId ++
        " identity conflicts with stored data")) s
    else if SameLifecycle row order then .ok false s
    else .ok true { s with brokerOrders := s.brokerOrders.replace order }

/-! ## Fills -/

/-- `_fill_from_row`: a zero fee of unknown source reads back as no fee.
mirrors repositories.py:1477-1493 -/
def fillFromRow (row : Fill) : Fill :=
  if h : row.feeSource = .unknown ∧ row.fee = some 0 then
    { row with
      fee := none
      fee_nonneg := by simp
      fee_valid := ⟨fun hs => absurd h.1 hs, fun hs => by rw [h.1] at hs; cases hs⟩ }
  else row

/-- mirrors repositories.py:1431-1461 -/
def recordFill (fill : Fill) : Repo Bool := fun s =>
  match s.fills.get? fill.fillId with
  | some row =>
    if row = fill ∨ fillFromRow row = fill then .ok false s
    else .error (.stateConflict ("fill " ++ fill.fillId ++ " conflicts with stored data")) s
  | none =>
    match s.brokerOrders.get? fill.brokerOrderId with
    | none => .error (.stateConflict
        ("fill " ++ fill.fillId ++ " references an unknown broker order")) s
    | some _ => .ok true { s with fills := s.fills.insert fill }

def getFill (fillId : String) : Repo (Option Fill) := fun s =>
  .ok ((s.fills.get? fillId).map fillFromRow) s

/-- The fills of one order (`list_fills(broker_order_id=..)`), in storage order. -/
def Store.fillsOf (s : Store) (brokerOrderId : String) : List Fill :=
  (s.fills.rows.filter fun f => decide (f.brokerOrderId = brokerOrderId)).map fillFromRow

/-- What the fills of an order add up to. -/
def Store.filled (s : Store) (brokerOrderId : String) : ℚ :=
  ((s.fillsOf brokerOrderId).map (·.quantity)).sum

/-- Where `encode_utc(t)` sorts as text: a whole second is written without a fraction,
and its `Z` sorts after every fraction of that second. -/
def encodedKey (t : Int) : Int ×ₗ Int :=
  toLex (t / 1000000, if t % 1000000 = 0 then 1000000 else t % 1000000)

/-- `list_fills()`, by time and id. -/
def Store.listFills (s : Store) : List Fill :=
  (s.fills.rows.insertionSort fun a b =>
    toLex (encodedKey a.occurredAt, a.fillId) ≤ toLex (encodedKey b.occurredAt, b.fillId)).map
      fillFromRow

/-- `list_broker_orders()`, by time and id. -/
def Store.listBrokerOrders (s : Store) : List BrokerOrder :=
  s.brokerOrders.rows.insertionSort fun a b =>
    toLex (encodedKey a.submittedAt, a.brokerOrderId) ≤
      toLex (encodedKey b.submittedAt, b.brokerOrderId)

/-! ## Order events and incidents -/

/-- mirrors repositories.py:1497-1527 -/
def recordOrderEvent (row : OrderEventRow) : Repo Bool := fun s =>
  match s.orderEvents.get? row.eventId with
  | none => .ok true { s with orderEvents := s.orderEvents.insert row }
  | some stored =>
    if stored = row then .ok false s
    else .error (.stateConflict ("order event " ++ row.eventId ++ " conflicts with stored data")) s

/-- `list_order_events(intent_id=..)`. -/
def Store.eventsOf (s : Store) (intentId : String) : List OrderEventRow :=
  s.orderEvents.rows.filter fun e => decide (e.intentId = some intentId)

/-- mirrors repositories.py:1999-2031 -/
def createIncident (row : IncidentRow) : Repo Bool := fun s =>
  match s.incidents.get? row.incidentId with
  | none => .ok true { s with incidents := s.incidents.insert row }
  | some stored =>
    if stored = row then .ok false s
    else .error (.stateConflict ("incident " ++ row.incidentId ++ " conflicts with stored data")) s

/-! ## What each call does -/

section Inversion

variable {s s' : Store}

variable {i : String}

@[simp] theorem getOrderIntent_ok {r : Option OrderIntent} :
    getOrderIntent i s = .ok r s' ↔ r = s.orderIntents.get? i ∧ s' = s := by
  simp [getOrderIntent, eq_comm]

@[simp] theorem getBrokerOrder_ok {r : Option BrokerOrder} :
    getBrokerOrder i s = .ok r s' ↔ r = s.brokerOrders.get? i ∧ s' = s := by
  simp [getBrokerOrder, eq_comm]

@[simp] theorem getFill_ok {r : Option Fill} :
    getFill i s = .ok r s' ↔ r = (s.fills.get? i).map fillFromRow ∧ s' = s := by
  simp [getFill, eq_comm]

variable {b : Bool}

theorem createOrderIntent_ok {intent : OrderIntent} (h : createOrderIntent intent s = .ok b s') :
    (b = false ∧ s.orderIntents.get? intent.intentId = some intent ∧ s' = s) ∨
    (b = true ∧ s.orderIntents.get? intent.intentId = none ∧
      s.intentByClient intent.clientOrderId = none ∧
      s' = { s with orderIntents := s.orderIntents.insert intent }) := by
  unfold createOrderIntent at h; split at h
  · next row hrow =>
    split at h
    · next heq => cases h; exact .inl ⟨rfl, heq ▸ hrow, rfl⟩
    · cases h
  · next hnone =>
    split at h
    · cases h
    · next hclient => cases h; exact .inr ⟨rfl, hnone, hclient, rfl⟩

theorem transitionOrderIntent_ok {target expected : IntentState} {r : OrderIntent}
    (h : transitionOrderIntent i target expected s = .ok r s') :
    ∃ stored, s.orderIntents.get? i = some stored ∧ stored.state = expected ∧
      Allowed expected target ∧ r = stored.withState target ∧ s' = s.setState i target := by
  unfold transitionOrderIntent at h; split at h
  · cases h
  next stored hstored =>
  split at h
  · cases h
  next hstate =>
  rw [ne_eq, not_not] at hstate; split at h
  · cases h
  · next q hq => cases h; exact ⟨stored, hstored, hstate, (transitionOrder_ok.1 hq).2, rfl, rfl⟩

/-- The compare-and-set succeeds from the expected state along an accepted transition. -/
theorem transitionOrderIntent_run {target : IntentState} {stored : OrderIntent}
    (hs : s.orderIntents.get? i = some stored) (ha : Allowed stored.state target) :
    transitionOrderIntent i target stored.state s =
      .ok (stored.withState target) (s.setState i target) := by
  have ht : transitionOrder stored.state target = .ok target := transitionOrder_ok.2 ⟨rfl, ha⟩
  simp only [transitionOrderIntent, hs, ne_eq, not_true_eq_false, if_false, ht]

variable {order : BrokerOrder}

theorem saveBrokerOrder_ok (h : saveBrokerOrder order s = .ok b s') :
    (b = false ∧ s.brokerOrders.get? order.brokerOrderId = some order ∧ s' = s) ∨
    (b = true ∧ s.brokerOrders.get? order.brokerOrderId = none ∧
      (∃ i, s.intentByClient order.clientOrderId = some i) ∧
      s.orderByClient order.clientOrderId = none ∧
      s' = { s with brokerOrders := s.brokerOrders.insert order }) := by
  unfold saveBrokerOrder at h; split at h
  · next row hrow =>
    split at h
    · next heq => cases h; exact .inl ⟨rfl, heq ▸ hrow, rfl⟩
    · cases h
  next hnone =>
  split at h
  · cases h
  next i hi =>
  split at h
  · cases h
  · next hclient => cases h; exact .inr ⟨rfl, hnone, ⟨i, hi⟩, hclient, rfl⟩

theorem eq_of_same {row : BrokerOrder} (hk : row.brokerOrderId = order.brokerOrderId)
    (hi : SameIdentity row order) (hl : SameLifecycle row order) : row = order := by
  obtain ⟨h₁, h₂, h₃, h₄, h₅, h₆⟩ := hi; obtain ⟨g₁, g₂, g₃, g₄⟩ := hl
  cases row; cases order; subst hk h₁ h₂ h₃ h₄ h₅ h₆ g₁ g₂ g₃ g₄; rfl

/-- An accepted update found the order with the same identity; the row is now the
incoming order (unchanged when it was that already). -/
theorem updateBrokerOrderLifecycle_ok (h : updateBrokerOrderLifecycle order s = .ok b s') :
    ∃ row, s.brokerOrders.get? order.brokerOrderId = some row ∧ SameIdentity row order ∧
      s' = { s with brokerOrders := s.brokerOrders.replace order } := by
  unfold updateBrokerOrderLifecycle at h; split at h
  · cases h
  next row hrow =>
  split at h
  · cases h
  next hid =>
  rw [not_not] at hid; refine ⟨row, hrow, hid, ?_⟩; split at h
  · next hsame =>
    cases h; obtain ⟨hmem, hk⟩ := Table.get?_some hrow
    rw [UTable.replace_eq_self (eq_of_same hk hid hsame ▸ hmem)]
  · cases h; rfl

theorem recordFill_ok {fill : Fill} (h : recordFill fill s = .ok b s') :
    (b = false ∧ s' = s ∧
      ∃ row, s.fills.get? fill.fillId = some row ∧ (row = fill ∨ fillFromRow row = fill)) ∨
    (b = true ∧ s.fills.get? fill.fillId = none ∧
      (∃ o, s.brokerOrders.get? fill.brokerOrderId = some o) ∧
      s' = { s with fills := s.fills.insert fill }) := by
  unfold recordFill at h; split at h
  · next row hrow =>
    split at h
    · next heq => cases h; exact .inl ⟨rfl, rfl, row, hrow, heq⟩
    · cases h
  · next hnone =>
    split at h
    · cases h
    · next o ho => cases h; exact .inr ⟨rfl, hnone, ⟨o, ho⟩, rfl⟩

theorem recordOrderEvent_ok {row : OrderEventRow} (h : recordOrderEvent row s = .ok b s') :
    (b = false ∧ s.orderEvents.get? row.eventId = some row ∧ s' = s) ∨
    (b = true ∧ s.orderEvents.get? row.eventId = none ∧
      s' = { s with orderEvents := s.orderEvents.insert row }) := by
  unfold recordOrderEvent at h; split at h
  · next hnone => cases h; exact .inr ⟨rfl, hnone, rfl⟩
  next stored hstored =>
  split at h
  · next heq => cases h; exact .inl ⟨rfl, heq ▸ hstored, rfl⟩
  · cases h

theorem createIncident_ok {row : IncidentRow} (h : createIncident row s = .ok b s') :
    ∃ t : IncidentTable, (∀ r ∈ s.incidents.rows, r ∈ t.rows) ∧
      s' = { s with incidents := t } := by
  unfold createIncident at h; split at h
  · next hnone => cases h; exact ⟨_, fun r hr => (Table.mem_insert hnone).2 (.inl hr), rfl⟩
  split at h
  · cases h; exact ⟨_, fun _ hr => hr, rfl⟩
  · cases h

end Inversion

/-! ## Reading after a transition -/

theorem setState_get? (s : Store) (i j : String) (q : IntentState) :
    (s.setState i q).orderIntents.get? j = if j = i then (s.orderIntents.get? i).map (·.withState q)
      else s.orderIntents.get? j := by
  exact Table.get?_modify s.orderIntents.toTable i (·.withState q) (fun _ h => h) j

theorem setState_rows (s : Store) (i : String) (q : IntentState) :
    (s.setState i q).orderIntents.rows =
      s.orderIntents.rows.map fun a => if a.intentId = i then a.withState q else a := rfl

theorem setState_self {s : Store} {i : String} {row : OrderIntent}
    (h : s.orderIntents.get? i = some row) : s.setState i row.state = s := by
  refine Store.ext (UTable.ext' ?_) rfl rfl rfl rfl
  refine (List.map_congr_left fun a ha => ?_).trans (List.map_id _); split
  · next hi =>
    have hget : s.orderIntents.get? i = some a := Table.get?_eq_some.2 ⟨ha, hi⟩
    rw [h] at hget; cases hget; rfl
  · rfl

@[simp] theorem setState_setState (s : Store) (i : String) (q r : IntentState) :
    (s.setState i q).setState i r = s.setState i r := by
  refine Store.ext (UTable.ext' ?_) rfl rfl rfl rfl
  rw [setState_rows, setState_rows, setState_rows, List.map_map]
  refine List.map_congr_left fun a _ => ?_
  by_cases h : a.intentId = i <;> simp [h]

end Quantbot.L2
