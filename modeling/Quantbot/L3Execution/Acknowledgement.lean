import Quantbot.L2Storage.Evolution

/-!
# Broker acknowledgements

What a broker order says about the intent it acknowledges
(`execution/coordinator.py:67-127`) and whether it is still working
(`execution/recovery.py:30-46`).
-/
namespace Quantbot.L3

open Core L1 L2 Txn

/-- What an execution path raises: a storage error, `BrokerProtocolError`,
`OrderSubmissionBlocked`, or a plain `RuntimeError`, `ValueError` or failed assertion. -/
inductive ExecError
  | store (error : StoreError)
  | brokerProtocol (message : String)
  | blocked (reasons : List String)
  | runtime (message : String)
deriving DecidableEq, Repr

abbrev Exec := Txn Store ExecError

/-- A repository call on an execution path. -/
def stored {α : Type} (x : Repo α) : Exec α := zoom id (fun _ t => t) .store x

@[simp] theorem stored_ok {α : Type} {x : Repo α} {a : α} {s s' : Store} :
    stored x s = .ok a s' ↔ x s = .ok a s' := by
  simp [stored, zoom_ok]

theorem stored_evolves {α : Type} {x : Repo α} (h : Moves Evolves x) : Moves Evolves (stored x) :=
  fun _ _ _ hx => h _ _ _ (stored_ok.1 hx)

/-- mirrors coordinator.py:67-76 -/
def AckMatches (intent : OrderIntent) (order : BrokerOrder) : Prop :=
  order.clientOrderId = intent.clientOrderId ∧ order.symbol = intent.symbol ∧
    order.side = intent.side ∧ order.orderType = intent.orderType ∧
    order.timeInForce = intent.timeInForce ∧ order.quantity = intent.quantity
deriving Decidable

/-- `_assert_ack_matches_intent`. -/
def assertAckMatchesIntent (intent : OrderIntent) (order : BrokerOrder) : Exec PUnit :=
  require (AckMatches intent order)
    (.brokerProtocol "broker acknowledgement does not match durable intent")

/-- mirrors coordinator.py:79-91 -/
def ackTerminalTarget (order : BrokerOrder) : Option IntentState :=
  let status := normalStatus order.status
  if status = "rejected" then some .rejected
  else if order.filledQuantity = order.quantity ∨ status = "filled" then some .filled
  else if status = "canceled" ∨ status = "cancelled" then some .cancelled
  else if status = "expired" then some .expired
  else if 0 < order.filledQuantity ∨ status = "partially_filled" ∨ status = "partial_fill" then
    some .partiallyFilled
  else none

/-- mirrors coordinator.py:94-126 -/
def persistBrokerAcknowledgement (intent : OrderIntent) (order : BrokerOrder) :
    Exec OrderIntent := do
  assertAckMatchesIntent intent order
  let _ ← stored (saveBrokerOrder order)
  match ackTerminalTarget order with
  | some .rejected => stored (transitionOrderIntent intent.intentId .rejected intent.state)
  | none => stored (transitionOrderIntent intent.intentId .brokerAccepted intent.state)
  | some target => do
    let _ ← stored (transitionOrderIntent intent.intentId .brokerAccepted intent.state)
    stored (transitionOrderIntent intent.intentId target .brokerAccepted)

/-- `_TERMINAL_ORDER_STATUSES`. -/
def terminalOrderStatuses : List String :=
  ["filled", "canceled", "cancelled", "expired", "rejected", "replaced", "stopped"]

/-- mirrors recovery.py:44-46 -/
def isOpenOrder (order : BrokerOrder) : Bool :=
  decide (normalStatus order.status ∉ terminalOrderStatuses)

variable {order : BrokerOrder}

theorem ackTerminalTarget_mem {q : IntentState} (h : ackTerminalTarget order = some q) :
    q ∈ [IntentState.rejected, .filled, .cancelled, .expired, .partiallyFilled] := by
  unfold ackTerminalTarget at h; simp only at h
  repeat' split at h
  all_goals first
    | (cases h; decide)
    | cases h

/-! ## What an acknowledgement does -/

/-- The states an adoption moves an intent to. -/
def adoptedStates : List IntentState :=
  [.brokerAccepted, .rejected, .filled, .cancelled, .expired, .partiallyFilled]

/-- What adoption does to the intent: nothing, or one state along accepted transitions. -/
inductive IntentAdopted (intent : OrderIntent) (s : Store) : Store → Prop
  | kept : IntentAdopted intent s s
  | moved {row : OrderIntent} {q : IntentState} : s.orderIntents.get? intent.intentId = some row →
      row.state = intent.state → Leads intent.state q → q ∈ adoptedStates →
      IntentAdopted intent s (s.setState intent.intentId q)

theorem IntentAdopted.orders {i : OrderIntent} {s t : Store} (h : IntentAdopted i s t) :
    t.brokerOrders = s.brokerOrders := by
  cases h <;> rfl

/-- **An acknowledgement.** It matches its intent, its order is stored, and the intent
has moved along accepted transitions. -/
theorem persistBrokerAcknowledgement_ok {intent r : OrderIntent}
    {s s' : Store} (h : persistBrokerAcknowledgement intent order s = .ok r s') :
    AckMatches intent order ∧ ∃ s₁ b, saveBrokerOrder order s = .ok b s₁ ∧
      IntentAdopted intent s₁ s' := by
  unfold persistBrokerAcknowledgement assertAckMatchesIntent at h
  simp only [bind_ok, require_ok, stored_ok] at h
  obtain ⟨_, _, ⟨hack, rfl⟩, b, s₁, hsave, h⟩ := h
  refine ⟨hack, s₁, b, hsave, ?_⟩
  cases htarget : ackTerminalTarget order with
  | none =>
    rw [htarget] at h
    obtain ⟨row, hrow, hstate, hallowed, _, rfl⟩ := transitionOrderIntent_ok (stored_ok.1 h)
    exact .moved hrow hstate hallowed.leads (by decide)
  | some target =>
    rw [htarget] at h; have hmem := ackTerminalTarget_mem htarget
    by_cases hrejected : target = .rejected
    · subst hrejected
      obtain ⟨row, hrow, hstate, hallowed, _, rfl⟩ := transitionOrderIntent_ok (stored_ok.1 h)
      exact .moved hrow hstate hallowed.leads (by decide)
    -- accepted first, then the state the order has ended in
    have htwo : ∃ a s₂, transitionOrderIntent intent.intentId .brokerAccepted intent.state s₁ =
          .ok a s₂ ∧ transitionOrderIntent intent.intentId target .brokerAccepted s₂ =
          .ok r s' := by
      cases target with
      | rejected => exact absurd rfl hrejected
      | _ =>
        simp only [bind_ok, stored_ok] at h; exact h
    obtain ⟨a, s₂, h₁, h₂⟩ := htwo
    obtain ⟨row, hrow, hstate, hallowed, _, rfl⟩ := transitionOrderIntent_ok h₁
    obtain ⟨_, _, _, hallowed', _, rfl⟩ := transitionOrderIntent_ok h₂
    rw [setState_setState]
    exact .moved hrow hstate (hallowed.leads.trans hallowed'.leads)
      (List.mem_cons_of_mem _ hmem)

theorem persistBrokerAcknowledgement_evolves (intent : OrderIntent) (order : BrokerOrder) :
    Moves Evolves (persistBrokerAcknowledgement intent order) := by
  refine (Moves.require _ _).bind fun _ => (stored_evolves (saveBrokerOrder_evolves order)).bind
    fun _ => ?_
  split
  · exact stored_evolves (transitionOrderIntent_evolves _ _ _)
  · exact stored_evolves (transitionOrderIntent_evolves _ _ _)
  · exact (stored_evolves (transitionOrderIntent_evolves _ _ _)).bind fun _ =>
      stored_evolves (transitionOrderIntent_evolves _ _ _)

end Quantbot.L3
