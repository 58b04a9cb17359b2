import Quantbot.L2Storage.Repository

/-!
# How the ledger evolves

What no repository call ever undoes: an intent keeps its request and moves along
accepted transitions, an order keeps its identity, fills and order events stay.
`Evolves` is a preorder, so a transaction built from repository calls evolves the
ledger (`Moves`), and so does any run of such transactions.
-/
namespace Quantbot.L2

open Core L1 Txn

structure Evolves (s s' : Store) : Prop where
  intents : ∀ i row, s.orderIntents.get? i = some row →
    ∃ q, s'.orderIntents.get? i = some (row.withState q) ∧ Leads row.state q
  orders : ∀ id row, s.brokerOrders.get? id = some row →
    ∃ row', s'.brokerOrders.get? id = some row' ∧ SameIdentity row row'
  fills : ∀ f ∈ s.fills.rows, f ∈ s'.fills.rows
  events : ∀ e ∈ s.orderEvents.rows, e ∈ s'.orderEvents.rows

theorem SameIdentity.rfl' (o : BrokerOrder) : SameIdentity o o := ⟨rfl, rfl, rfl, rfl, rfl, rfl⟩

theorem SameIdentity.trans' {a b c : BrokerOrder} (h : SameIdentity a b) (h' : SameIdentity b c) :
    SameIdentity a c := by
  obtain ⟨h₁, h₂, h₃, h₄, h₅, h₆⟩ := h; obtain ⟨g₁, g₂, g₃, g₄, g₅, g₆⟩ := h'
  exact ⟨h₁.trans g₁, h₂.trans g₂, h₃.trans g₃, h₄.trans g₄, h₅.trans g₅, h₆.trans g₆⟩

theorem Evolves.rfl' (s : Store) : Evolves s s :=
  ⟨fun _ row h => ⟨row.state, h, .refl⟩, fun _ row h => ⟨row, h, .rfl' row⟩, fun _ h => h,
    fun _ h => h⟩

theorem Evolves.trans' {a b c : Store} (h : Evolves a b) (h' : Evolves b c) : Evolves a c := by
  refine ⟨fun i row hrow => ?_, fun id row hrow => ?_, fun f hf => h'.fills f (h.fills f hf),
    fun e he => h'.events e (h.events e he)⟩
  · obtain ⟨q, hq, hleads⟩ := h.intents i row hrow
    obtain ⟨r, hr, hleads'⟩ := h'.intents i _ hq
    exact ⟨r, hr, hleads.trans hleads'⟩
  · obtain ⟨row₁, h₁, hsame⟩ := h.orders id row hrow
    obtain ⟨row₂, h₂, hsame'⟩ := h'.orders id row₁ h₁
    exact ⟨row₂, h₂, hsame.trans' hsame'⟩

instance : IsPreorder Store Evolves where
  refl := Evolves.rfl'
  trans _ _ _ := Evolves.trans'

/-! ## The repository calls -/

theorem evolves_setState {s : Store} {i : String} {q : IntentState}
    (h : ∀ row, s.orderIntents.get? i = some row → Leads row.state q) :
    Evolves s (s.setState i q) := by
  refine ⟨fun j row hrow => ?_, fun id row hrow => ⟨row, hrow, .rfl' row⟩, fun _ hf => hf,
    fun _ he => he⟩
  have hget := setState_get? s i j q; by_cases hj : j = i
  · subst hj; rw [if_pos rfl, hrow] at hget; exact ⟨q, hget, h row hrow⟩
  · rw [if_neg hj, hrow] at hget; exact ⟨row.state, hget, .refl⟩

theorem transitionOrderIntent_evolves (i : String) (target expected : IntentState) :
    Moves Evolves (transitionOrderIntent i target expected) := fun s r s' h => by
  obtain ⟨stored, hstored, hstate, hallowed, _, rfl⟩ := transitionOrderIntent_ok h
  refine evolves_setState fun row hrow => ?_
  rw [hstored] at hrow
  cases hrow
  rw [hstate]
  exact hallowed.leads

theorem createOrderIntent_evolves (intent : OrderIntent) :
    Moves Evolves (createOrderIntent intent) := fun s b s' h => by
  rcases createOrderIntent_ok h with ⟨_, _, rfl⟩ | ⟨_, hnone, hclient, rfl⟩
  · exact .rfl' _
  refine ⟨fun i row hrow => ⟨row.state, ?_, .refl⟩, (Evolves.rfl' s).orders, fun _ hf => hf,
    fun _ he => he⟩
  show (s.orderIntents.insert intent).get? i = some row
  rw [UTable.insert_toTable hnone hclient, Table.get?_insert hnone,
    if_neg fun hi => by rw [hi, hrow] at hnone; cases hnone]
  exact hrow

theorem saveBrokerOrder_evolves (order : BrokerOrder) :
    Moves Evolves (saveBrokerOrder order) := fun s b s' h => by
  rcases saveBrokerOrder_ok h with ⟨_, _, rfl⟩ | ⟨_, hnone, _, hclient, rfl⟩
  · exact .rfl' _
  refine ⟨(Evolves.rfl' s).intents, fun id row hrow => ⟨row, ?_, .rfl' row⟩, fun _ hf => hf,
    fun _ he => he⟩
  show (s.brokerOrders.insert order).get? id = some row
  rw [UTable.insert_toTable hnone hclient, Table.get?_insert hnone,
    if_neg fun hid => by rw [hid, hrow] at hnone; cases hnone]
  exact hrow

theorem updateBrokerOrderLifecycle_evolves (order : BrokerOrder) :
    Moves Evolves (updateBrokerOrderLifecycle order) := fun s b s' h => by
  obtain ⟨row, hrow, hident, rfl⟩ := updateBrokerOrderLifecycle_ok h
  refine ⟨(Evolves.rfl' s).intents, fun id o ho => ?_, fun _ hf => hf, fun _ he => he⟩
  show ∃ row', (s.brokerOrders.replace order).get? id = some row' ∧ SameIdentity o row'
  rw [UTable.replace_toTable hrow hident.1, Table.get?_upsert]
  by_cases hid : order.brokerOrderId = id
  · subst hid
    rw [hrow] at ho
    cases ho
    exact ⟨order, if_pos rfl, hident⟩
  · exact ⟨o, (if_neg hid).trans ho, .rfl' o⟩

theorem recordFill_evolves (fill : Fill) : Moves Evolves (recordFill fill) := fun s b s' h => by
  rcases recordFill_ok h with ⟨_, rfl, _⟩ | ⟨_, hnone, _, rfl⟩
  · exact .rfl' _
  · exact ⟨(Evolves.rfl' s).intents, (Evolves.rfl' s).orders,
      fun f hf => (Table.mem_insert hnone).2 (.inl hf), fun _ he => he⟩

theorem recordOrderEvent_evolves (row : OrderEventRow) :
    Moves Evolves (recordOrderEvent row) := fun s b s' h => by
  rcases recordOrderEvent_ok h with ⟨_, _, rfl⟩ | ⟨_, hnone, rfl⟩
  · exact .rfl' _
  · exact ⟨(Evolves.rfl' s).intents, (Evolves.rfl' s).orders, fun _ hf => hf,
      fun e he => (Table.mem_insert hnone).2 (.inl he)⟩

theorem createIncident_evolves (row : IncidentRow) :
    Moves Evolves (createIncident row) := fun s b s' h => by
  obtain ⟨t, _, rfl⟩ := createIncident_ok h
  exact ⟨(Evolves.rfl' s).intents, (Evolves.rfl' s).orders, fun _ hf => hf, fun _ he => he⟩

/-! ## Past the send -/

/-- The intent is stored and has left the two states before a send. -/
def PastCreated (s : Store) (intentId : String) : Prop :=
  ∃ row, s.orderIntents.get? intentId = some row ∧ row.state ≠ .riskApproved ∧
    row.state ≠ .orderCreated

theorem Evolves.pastCreated {s s' : Store} {i : String} (h : Evolves s s')
    (hi : PastCreated s i) : PastCreated s' i := by
  obtain ⟨row, hrow, hpast⟩ := hi
  obtain ⟨q, hq, hleads⟩ := h.intents i row hrow
  exact ⟨_, hq, hleads.past_created hpast⟩

end Quantbot.L2
