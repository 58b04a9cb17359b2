import Quantbot.Core.LTS
import Quantbot.L4PaperCore.ImportFacts

/-!
# Imports are atomic and idempotent

Over runs of `import_broker_events` with any batches, accepted or rejected:

* a rejected batch leaves the ledger, the documents, the cursors and the intent
  states as they were (`OnlyEvidence`);
* a batch that was accepted once is, from then on, a list of replays: importing it
  again returns no new event and writes nothing;
* stored fills stay within the acknowledged quantity once they are (`Checked`,
  which every accepted batch establishes), and no acknowledged quantity decreases.

The three come together in `import_atomic_idempotent`.
-/
namespace Quantbot.L4

open Core L1 L2 L3 Txn

/-! ## What every import keeps -/

/-- Acknowledged quantities never decrease. -/
def OrdersAdvance (s s' : Store) : Prop :=
  ∀ o ∈ s.brokerOrders.rows, ∃ o' ∈ s'.brokerOrders.rows,
    o'.brokerOrderId = o.brokerOrderId ∧ o.filledQuantity ≤ o'.filledQuantity

theorem OrdersAdvance.of_eq {s s' : Store} (h : s'.brokerOrders = s.brokerOrders) :
    OrdersAdvance s s' := fun o ho => ⟨o, h ▸ ho, rfl, le_refl _⟩

theorem OrdersAdvance.trans' {a b c : Store} (h : OrdersAdvance a b) (h' : OrdersAdvance b c) :
    OrdersAdvance a c := by
  intro o ho; obtain ⟨o₁, ho₁, e₁, l₁⟩ := h o ho
  obtain ⟨o₂, ho₂, e₂, l₂⟩ := h' o₁ ho₁
  exact ⟨o₂, ho₂, e₂.trans e₁, l₁.trans l₂⟩

/-- The configuration and the sources stay, acknowledged quantities advance. -/
structure Advance (s s' : CoreStore) : Prop where
  config : s'.config = s.config
  sources : ∀ id e, s.source? id = some e → s'.source? id = some e
  orders : OrdersAdvance s.toStore s'.toStore

theorem Advance.rfl' (s : CoreStore) : Advance s s := ⟨rfl, fun _ _ h => h, .of_eq rfl⟩

instance : IsPreorder CoreStore Advance where
  refl := Advance.rfl'
  trans _ _ _ h h' := ⟨h'.config.trans h.config,
    fun id e he => h'.sources id e (h.sources id e he), h.orders.trans' h'.orders⟩

variable {t : Store} {s : Store}

theorem OrderStored.advances {order : BrokerOrder} (h : OrderStored s order t) :
    OrdersAdvance s t := by
  cases h with
  | saved hclient hnone =>
    intro o ho; refine ⟨o, ?_, rfl, le_refl _⟩
    rw [UTable.insert_toTable hnone hclient, Table.mem_insert hnone]
    exact .inl ho
  | @advanced old hold hid hident hle =>
    obtain ⟨hmem, _⟩ := UTable.getAlt?_eq_some.1 hold
    have hget : s.brokerOrders.get? order.brokerOrderId = some old :=
      Table.get?_eq_some.2 ⟨hmem, hid⟩
    intro o ho; rw [UTable.replace_toTable hget hident.1]
    have hups := Table.get?_upsert s.brokerOrders.toTable order o.brokerOrderId
    by_cases hk : order.brokerOrderId = o.brokerOrderId
    · -- the row that was advanced
      rw [if_pos hk] at hups
      have heq : o = old := Table.eq_of_key ho hmem (hk.symm.trans hid.symm)
      exact ⟨order, (Table.get?_some hups).1, hk, heq ▸ hle⟩
    · rw [if_neg hk, Table.get?_key.2 ho] at hups
      exact ⟨o, (Table.get?_some hups).1, rfl, le_refl _⟩

theorem recordFill_orders {f : Fill} {b : Bool} (h : recordFill f s = .ok b t) :
    t.brokerOrders = s.brokerOrders := by
  rcases recordFill_ok h with ⟨_, rfl, _⟩ | ⟨_, _, _, rfl⟩
  · rfl
  · rfl

variable {e : BrokerEvent}

theorem PayloadStored.advances {i : OrderIntent} (h : PayloadStored e i s t) :
    OrdersAdvance s t := by
  unfold PayloadStored at h; split at h
  · obtain ⟨_, t₁, hstored, hadopted⟩ := h
    exact hstored.advances.trans' (.of_eq hadopted.orders)
  · obtain ⟨_, _, _, _, _, _, hrec⟩ := h; exact .of_eq (recordFill_orders hrec)
  · exact .of_eq (by rw [h])
  · exact .of_eq (by rw [h])

variable {contentId : ContentId} {s s' : CoreStore}

theorem EventImported.advance (h : EventImported contentId e s s') : Advance s s' := by
  obtain ⟨intent, _, hpay⟩ := h.payload
  refine ⟨h.config, fun id old hold => ?_, hpay.advances⟩
  exact CoreStore.source?_eq_some.2 (h.documents _ (CoreStore.source?_eq_some.1 hold))

theorem Beside.advance (h : Beside s s') : Advance s s' :=
  ⟨h.config, fun id e he => (h.sources id).trans he, .of_eq (by rw [h.ledger])⟩

theorem OnlyEvidence.source? (h : OnlyEvidence s s') (id : String) :
    s'.source? id = s.source? id := by
  unfold CoreStore.source? CoreStore.document; rw [h.documents]

theorem OnlyEvidence.advance (h : OnlyEvidence s s') : Advance s s' :=
  ⟨h.config, fun id _ he => (h.source? id).trans he, .of_eq h.brokerOrders⟩

theorem OnlyEvidence.checked (h : OnlyEvidence s s') (hc : Checked s.toStore) :
    Checked s'.toStore := by
  intro o ho; rw [h.brokerOrders] at ho
  have hfilled : s'.filled o.brokerOrderId = s.filled o.brokerOrderId := by
    unfold Store.filled Store.fillsOf; rw [h.fills]
  rw [hfilled]; exact hc o ho

/-! ## Accepted batches -/

/-- The event is bound to the store and an equal source is stored. -/
def Replayed (contentId : ContentId) (s : CoreStore) (e : BrokerEvent) : Prop :=
  Bound s.config e ∧ ∃ old, s.source? (sourceId contentId e) = some old ∧
    old.semantic = e.semantic

theorem Replayed.advance (h : Replayed contentId s e) (ha : Advance s s') :
    Replayed contentId s' e := by
  obtain ⟨hbound, old, hold, hsem⟩ := h
  exact ⟨ha.config ▸ hbound, old, ha.sources _ _ hold, hsem⟩

variable {es events : List BrokerEvent}

theorem EventsImported.advance (h : EventsImported contentId es s s') : Advance s s' :=
  h.rel fun _ _ _ _ hone => hone.advance

theorem EventsImported.replayed (h : EventsImported contentId es s s') :
    ∀ e ∈ es, Replayed contentId s' e := by
  induction h with
  | nil s => exact fun _ he => absurd he List.not_mem_nil
  | replay hbound hold hsem hrest ih =>
    intro e he; rcases List.mem_cons.1 he with rfl | he
    · exact Replayed.advance ⟨hbound, _, hold, hsem⟩ hrest.advance
    · exact ih e he
  | new hbound hone hrest ih =>
    intro e he; rcases List.mem_cons.1 he with rfl | he
    · exact Replayed.advance ⟨hone.config ▸ hbound, _, hone.source, rfl⟩ hrest.advance
    · exact ih e he

theorem importEvent_replayed (h : Replayed contentId s e) :
    importEvent contentId e s = .ok none s := by
  obtain ⟨hbound, old, hold, hsem⟩ := h
  have hbody : importEventBody contentId e s = .ok none s := by
    refine bind_ok.2 ⟨s, s, get_ok.2 ⟨rfl, rfl⟩, bind_ok.2 ⟨⟨⟩, s, require_ok.2 ⟨hbound, rfl⟩, ?_⟩⟩
    rw [hold]; exact (congrFun (if_pos hsem) s).trans rfl
  unfold importEvent; rw [hbody]

theorem importAll_replayed (h : ∀ e ∈ es, Replayed contentId s e) (acc : List (String × Int)) :
    importAll contentId es acc s = .ok acc s := by
  induction es with
  | nil => rfl
  | cons e es ih =>
    refine bind_ok.2 ⟨none, s, importEvent_replayed (h e List.mem_cons_self), ?_⟩
    exact ih fun e' he => h e' (List.mem_cons_of_mem _ he)

theorem mem_ordered : e ∈ ordered events ↔ e ∈ events :=
  (List.perm_insertionSort _ _).mem_iff

/-- **Idempotence.** Over a checked store, a batch of replays returns nothing new and
writes nothing. -/
theorem importBrokerEvents_replayed (h : ∀ e ∈ events, Replayed contentId s e)
    (hc : Checked s.toStore) : importBrokerEvents contentId events s = .ok [] s := by
  have himport : importEvents contentId events s = .ok [] s := by
    refine immediate_ok.2 (bind_ok.2 ⟨[], s, ?_, bind_ok.2 ⟨⟨⟩, s, checkFilled_ok.2 ⟨hc, rfl⟩, rfl⟩⟩)
    exact importAll_replayed (fun e he => h e (mem_ordered.1 he)) []
  unfold importBrokerEvents; rw [himport]

theorem importBrokerEvents_accepted {ids : List String}
    (h : importBrokerEvents contentId events s = .ok ids s') :
    Advance s s' ∧ Checked s'.toStore ∧ ∀ e ∈ events, Replayed contentId s' e := by
  obtain ⟨s₁, himported, hchecked, hbeside⟩ := importEvents_ok (importBrokerEvents_ok h)
  refine ⟨trans_of Advance himported.advance hbeside.advance, hbeside.ledger ▸ hchecked,
    fun e he => ?_⟩
  exact (himported.replayed e (mem_ordered.2 he)).advance hbeside.advance

/-! ## Runs of imports -/

/-- One call: its batch, and the ids it returned unless it raised. -/
structure ImportCall where
  events : List BrokerEvent
  ids : Option (List String)

/-- Calls of `import_broker_events`, from any store. -/
def imports (contentId : ContentId) : LTS CoreStore ImportCall where
  init _ := True
  step s call s' :=
    match importBrokerEvents contentId call.events s with
    | .ok ids t => call.ids = some ids ∧ s' = t
    | .error _ t => call.ids = none ∧ s' = t

theorem imports_step {call : ImportCall} (h : (imports contentId).step s call s') :
    (∃ ids, importBrokerEvents contentId call.events s = .ok ids s' ∧ call.ids = some ids) ∨
    (∃ e, importBrokerEvents contentId call.events s = .error e s' ∧ call.ids = none) := by
  unfold imports at h; simp only at h; split at h
  · next ids t hi =>
    obtain ⟨hids, rfl⟩ := h; exact .inl ⟨ids, hi, hids⟩
  · next e t hi =>
    obtain ⟨hids, rfl⟩ := h; exact .inr ⟨e, hi, hids⟩

theorem imports_advance {call : ImportCall} (h : (imports contentId).step s call s') :
    Advance s s' ∧ (Checked s.toStore ∨ call.ids.isSome → Checked s'.toStore) := by
  rcases imports_step h with ⟨ids, hok, _⟩ | ⟨e, herr, hids⟩
  · obtain ⟨hadv, hchecked, _⟩ := importBrokerEvents_accepted hok
    exact ⟨hadv, fun _ => hchecked⟩
  · have hev := importBrokerEvents_error herr
    refine ⟨hev.advance, fun hc => hev.checked (hc.resolve_right ?_)⟩; rw [hids]
    decide

theorem imports_run {calls : List ImportCall} (h : (imports contentId).Run s calls s') :
    Advance s s' ∧ ((Checked s.toStore ∨ ∃ c ∈ calls, c.ids.isSome) → Checked s'.toStore) := by
  induction h with
  | nil s =>
    refine ⟨.rfl' s, ?_⟩; rintro (hc | ⟨c, hc, _⟩)
    · exact hc
    · exact absurd hc List.not_mem_nil
  | cons hst _ ih =>
    obtain ⟨hadv, hone⟩ := imports_advance hst
    refine ⟨trans_of Advance hadv ih.1, ?_⟩; rintro (hc | ⟨c, hc, hsome⟩)
    · exact ih.2 (.inl (hone (.inl hc)))
    rcases List.mem_cons.1 hc with rfl | hc
    · exact ih.2 (.inl (hone (.inr hsome)))
    · exact ih.2 (.inr ⟨c, hc, hsome⟩)

/-- **Atomic and idempotent.** For every store, batch and run of imports: a rejected
batch leaves everything but its evidence; an accepted batch imported again, then or
after any further imports, returns nothing and changes nothing; stored fills are
within the stored `filled_quantity` of their order from the first accepted batch on
(or from the start, if they were), and no stored `filled_quantity` decreases. -/
theorem import_atomic_idempotent (contentId : ContentId) :
    (∀ s events e s', importBrokerEvents contentId events s = .error e s' → OnlyEvidence s s') ∧
    (∀ s events ids s₁, importBrokerEvents contentId events s = .ok ids s₁ →
      ∀ calls s₂, (imports contentId).Run s₁ calls s₂ →
        importBrokerEvents contentId events s₂ = .ok [] s₂) ∧
    (∀ s calls s', (imports contentId).Run s calls s' →
      (∀ o ∈ s.brokerOrders.rows, ∃ o' ∈ s'.brokerOrders.rows,
        o'.brokerOrderId = o.brokerOrderId ∧ o.filledQuantity ≤ o'.filledQuantity) ∧
      ((Checked s.toStore ∨ ∃ c ∈ calls, c.ids.isSome) →
        ∀ o ∈ s'.brokerOrders.rows, s'.filled o.brokerOrderId ≤ o.filledQuantity)) := by
  refine ⟨fun s events e s' h => importBrokerEvents_error h, ?_, ?_⟩
  · intro s events ids s₁ h calls s₂ hrun
    obtain ⟨_, hchecked, hreplayed⟩ := importBrokerEvents_accepted h
    obtain ⟨hadv, hrest⟩ := imports_run hrun
    exact importBrokerEvents_replayed (fun e he => (hreplayed e he).advance hadv)
      (hrest (.inl hchecked))
  · intro s calls s' hrun; obtain ⟨hadv, hchecked⟩ := imports_run hrun
    exact ⟨hadv.orders, hchecked⟩

/-! ## A partial fill and its snapshot -/

/-- A digest by label, for runs on given inputs. -/
def labelDigest : ContentId
  | .source account _ endpoint event => "source:" ++ account ++ "/" ++ endpoint ++ "/" ++ event
  | .cursor _ account endpoint => "cursor:" ++ account ++ "/" ++ endpoint
  | .costContractConflict contract account => "conflict:" ++ account ++ "/" ++ contract
  | .cost item => "cost:" ++ item.fillId
  | .cashActivity activity => "cash:" ++ activity.documentId
  | .proof proof => "proof:" ++ proof.accountId
  | .receipt receipt => "receipt:" ++ receipt.owner
  | .decision decision => "decision:" ++ decision.observationId
  | .roundTrip trip => "trip:" ++ trip.lotId
  | .refusal refusal => "refusal:" ++ refusal.costId
  | .event event => "event:" ++ event.eventId
  | .rejection _ reason => "rejection:" ++ reason
  | .entryClaim binding observation => "entry:" ++ binding ++ "/" ++ observation
  | .exitClaim lot _ _ previous => "exit:" ++ lot ++ String.join previous
  | .ofIntent intent => "intent:" ++ intent
  | .text value => value

def paperConfig : CoreConfig where
  accountId := "PA1"
  releaseId := "rel"
  owner := "core"
  generation := 1
  evidenceLane := .syntheticTest

def entryIntent : OrderIntent where
  intentId := "core-entry-1"
  clientOrderId := "qb-1"
  strategyId := "core"
  symbol := "SPY"
  signalDate := 0
  side := .buy
  orderType := .market
  timeInForce := .day
  quantity := 10
  state := .submitting
  createdAt := 0
  quantity_pos := L1.ten_pos
  prices := L1.market_unpriced

/-- One claimed entry, being sent. -/
def claimedStore : CoreStore :=
  { config := paperConfig
    orderIntents := UTable.empty.insert entryIntent
    links := Table.empty.insert ⟨"core-entry-1", "lot", "plan", "obs", .entry, "lot"⟩
    baselines := [{ quantities := [], cash := 1000 }] }

def partialOrder : BrokerOrder where
  brokerOrderId := "B1"
  clientOrderId := "qb-1"
  symbol := "SPY"
  side := .buy
  orderType := .market
  timeInForce := .day
  quantity := 10
  filledQuantity := 4
  status := "partially_filled"
  submittedAt := 1
  filledAveragePrice := some 100
  quantity_pos := L1.ten_pos
  filled_nonneg := L1.lot_pos.le
  filled_le := (by decide : (10 : ℚ) ≥ 4)

def partialExecution : Fill where
  fillId := "F1"
  brokerOrderId := "B1"
  symbol := "SPY"
  side := .buy
  quantity := 4
  price := 100
  occurredAt := 2
  quantity_pos := L1.lot_pos
  price_pos := L1.hundred_pos
  fee_nonneg := L1.fee_absent
  fee_valid := L1.fee_unknown

def paperEvent (eventId : String) (at' : Int) (payload : EventPayload) : BrokerEvent where
  recordedAt := at'
  releaseId := "rel"
  evidenceLane := .syntheticTest
  eventId := eventId
  rawDigest := eventId
  provider := .explicitSynthetic
  accountId := "PA1"
  endpoint := "orders"
  clientOrderId := "qb-1"
  occurredAt := at'
  payload := payload
  occurred_le := le_refl _
  complete_order := fun h => by cases h
  complete_watermark := fun h => by cases h

def partialBatch : List BrokerEvent :=
  [paperEvent "f1" 3 (.fill partialExecution), paperEvent "o1" 3 (.order partialOrder)]

theorem import_atomic_idempotent_partial :
    (∃ s₁, importBrokerEvents labelDigest partialBatch claimedStore =
        .ok ["source:PA1/orders/o1", "source:PA1/orders/f1"] s₁ ∧
      importBrokerEvents labelDigest partialBatch s₁ = .ok [] s₁ ∧
      ∀ o ∈ s₁.brokerOrders.rows, s₁.filled o.brokerOrderId ≤ o.filledQuantity) ∧
    -- the execution without its order is refused
    ∃ e s₂, importBrokerEvents labelDigest [paperEvent "f1" 3 (.fill partialExecution)]
        claimedStore = .error e s₂ ∧ OnlyEvidence claimedStore s₂ := by
  obtain ⟨hrejected, hagain, hruns⟩ := import_atomic_idempotent labelDigest
  have haccepted : Returns (importBrokerEvents labelDigest partialBatch) claimedStore
      ["source:PA1/orders/o1", "source:PA1/orders/f1"] := by decide +kernel
  have hrefused : Raises (importBrokerEvents labelDigest
      [paperEvent "f1" 3 (.fill partialExecution)]) claimedStore := by decide +kernel
  obtain ⟨s₁, hok⟩ := haccepted; obtain ⟨e, s₂, herr⟩ := hrefused
  have hstep : (imports labelDigest).step claimedStore
      ⟨partialBatch, some ["source:PA1/orders/o1", "source:PA1/orders/f1"]⟩ s₁ := by
    show (match importBrokerEvents labelDigest partialBatch claimedStore with
      | .ok ids t => _ | .error _ t => _)
    rw [hok]; exact ⟨rfl, rfl⟩
  refine ⟨⟨s₁, hok, hagain _ _ _ _ hok [] s₁ (.nil s₁), ?_⟩, e, s₂, herr, hrejected _ _ _ _ herr⟩
  exact (hruns _ _ _ (.cons hstep (.nil s₁))).2 (.inr ⟨_, List.mem_cons_self, rfl⟩)

end Quantbot.L4
