import Quantbot.L3Execution.Acknowledgement

/-!
# Recovery

The transactions by which a snapshot read from the broker reaches the order
ledger outside an import: the adoptions of startup recovery and of the
coordinator, the reconciliation of an accepted order, and the ingestion of the
broker's order list.

Each commits whole or rolls back (`Database.transaction`), so each is one step
of any interleaving.
-/
namespace Quantbot.L3

open Core L1 L2 Txn

/-! ## Adoption -/

/-- `StartupRecovery._adopt`.
mirrors recovery.py:81-87 -/
def recoverSubmission (intentId : String) (order : BrokerOrder) : Exec OrderIntent :=
  immediate do
    match ← stored (getOrderIntent intentId) with
    | none => throw (.runtime ("order intent disappeared during recovery: " ++ intentId))
    | some current => persistBrokerAcknowledgement current order

/-- `ExecutionCoordinator._adopt`.
mirrors coordinator.py:309-316 -/
def adoptAcknowledgement (intent : OrderIntent) (order : BrokerOrder) : Exec OrderIntent := fun s =>
  match immediate (persistBrokerAcknowledgement intent order) s with
  | .error (.store (.invalidTransition _)) s' | .error (.store (.stateConflict _)) s' =>
    .error (.brokerProtocol "broker acknowledgement conflicts with durable order state") s'
  | r => r

variable {s s' : Store}

theorem recoverSubmission_ok {intentId : String} {order : BrokerOrder} {r : OrderIntent}
    (h : recoverSubmission intentId order s = .ok r s') :
    ∃ current, s.orderIntents.get? intentId = some current ∧
      persistBrokerAcknowledgement current order s = .ok r s' := by
  unfold recoverSubmission at h; rw [immediate_ok, bind_ok] at h
  obtain ⟨found, s₁, hget, h⟩ := h
  obtain ⟨rfl, rfl⟩ := getOrderIntent_ok.1 (stored_ok.1 hget)
  cases hcurrent : s₁.orderIntents.get? intentId with
  | none =>
    rw [hcurrent] at h; cases h
  | some current =>
    rw [hcurrent] at h; exact ⟨current, rfl, h⟩

theorem adoptAcknowledgement_ok {intent r : OrderIntent} {order : BrokerOrder}
    (h : adoptAcknowledgement intent order s = .ok r s') :
    persistBrokerAcknowledgement intent order s = .ok r s' := by
  unfold adoptAcknowledgement at h; split at h
  · cases h
  · cases h
  · exact immediate_ok.1 h

/-! ## Reconciliation of an accepted order -/

/-- The transaction of `reconcile_durable`, with the acknowledgement check before it.
mirrors coordinator.py:468-492 -/
def reconcileAccepted (intent : OrderIntent) (found : BrokerOrder) : Exec OrderIntent :=
  immediate do
    assertAckMatchesIntent intent found
    let s ← get
    match s.orderByClient intent.clientOrderId with
    | none => throw (.brokerProtocol
        ("accepted order intent " ++ intent.intentId ++ " has no durable broker order"))
    | some durable => do
      require (durable.brokerOrderId = found.brokerOrderId)
        (.brokerProtocol "broker lookup changed the durable broker order identity")
      let _ ← stored (updateBrokerOrderLifecycle found)
      match ackTerminalTarget found with
      | none => pure intent
      | some target =>
        if target = intent.state then pure intent
        else stored (transitionOrderIntent intent.intentId target intent.state)

/-- **Reconciliation.** The looked-up order acknowledges the intent and has the id of
its stored order; it is that order's row, and the intent has moved along accepted
transitions, if at all. -/
theorem reconcileAccepted_ok {intent r : OrderIntent} {found : BrokerOrder}
    (h : reconcileAccepted intent found s = .ok r s') : AckMatches intent found ∧ ∃ durable s₁ b,
      s.orderByClient intent.clientOrderId = some durable ∧
      durable.brokerOrderId = found.brokerOrderId ∧
      updateBrokerOrderLifecycle found s = .ok b s₁ ∧ IntentAdopted intent s₁ s' := by
  unfold reconcileAccepted assertAckMatchesIntent at h
  rw [immediate_ok, bind_ok] at h; obtain ⟨_, s₀, hrequire, h⟩ := h
  obtain ⟨hack, rfl⟩ := require_ok.1 hrequire; rw [bind_ok] at h
  obtain ⟨t, s₁, hget, h⟩ := h; obtain ⟨rfl, rfl⟩ := get_ok.1 hget
  refine ⟨hack, ?_⟩
  cases hdurable : s₁.orderByClient intent.clientOrderId with
  | none =>
    rw [hdurable] at h; cases h
  | some durable =>
    rw [hdurable] at h; simp only [bind_ok, require_ok, stored_ok] at h
    obtain ⟨_, _, ⟨hid, rfl⟩, b, s₂, hupdate, h⟩ := h
    refine ⟨durable, s₂, b, rfl, hid, hupdate, ?_⟩
    cases htarget : ackTerminalTarget found with
    | none =>
      rw [htarget] at h; obtain ⟨_, rfl⟩ := pure_ok.1 h; exact .kept
    | some target =>
      rw [htarget] at h; simp only at h; split at h
      · obtain ⟨_, rfl⟩ := pure_ok.1 h; exact .kept
      · obtain ⟨row, hrow, hstate, hallowed, _, rfl⟩ := transitionOrderIntent_ok (stored_ok.1 h)
        exact .moved hrow hstate hallowed.leads
          (List.mem_cons_of_mem _ (ackTerminalTarget_mem htarget))

/-! ## Ingestion of the order list -/

/-- One listed order: saved when it is new, else its row is advanced. -/
def ingestOrder (order : BrokerOrder) : Exec PUnit := do
  match ← stored (getBrokerOrder order.brokerOrderId) with
  | none => do
    let _ ← stored (saveBrokerOrder order)
    pure ⟨⟩
  | some _ => do
    let _ ← stored (updateBrokerOrderLifecycle order)
    pure ⟨⟩

/-- The first transaction of `LedgerSyncingRecovery._ingest`.
mirrors runners.py:386-394 -/
def ingestOrders (fills : List Fill) (orders : List BrokerOrder) : Exec PUnit :=
  immediate do
    fills.forM fun fill => do
      let _ ← stored (recordFill fill)
      pure ⟨⟩
    orders.forM ingestOrder

/-- Its second transaction, for the orders the broker no longer lists as open.
mirrors runners.py:410-414 -/
def settleOrders (settled : List BrokerOrder) : Exec PUnit :=
  immediate do
    settled.forM fun order => do
      let _ ← stored (updateBrokerOrderLifecycle order)
      pure ⟨⟩

end Quantbot.L3
