import Quantbot.L3Execution.Recovery
import Quantbot.L4PaperCore.Settlement
import Quantbot.L4PaperCore.Outcomes

/-!
# The core's coordinator

What `CoreExecutionCoordinator` of `paper_core/runtime.py` writes in place of, or
beside, the coordinator it extends: its adoption of an acknowledgement, and the
evidence that a refused send was never attempted.
-/
namespace Quantbot.L4

open Core L1 L2 L3 Txn

/-- `CoreExecutionCoordinator._adopt`: another recovery may have advanced the intent
meanwhile, so the request is checked and adopted under one lock.
mirrors runtime.py:308-325 -/
def adoptUnderLock (intent : OrderIntent) (order : BrokerOrder) : Exec OrderIntent :=
  immediate do
    match ← stored (getOrderIntent intent.intentId) with
    | none => throw (.brokerProtocol "acknowledgement request changed during recovery")
    | some current => do
      require (current.withState intent.state = intent)
        (.brokerProtocol "acknowledgement request changed during recovery")
      adopt current order
      match ← stored (getOrderIntent intent.intentId) with
      | none => throw (.runtime "assert adopted is not None")
      | some adopted => pure adopted

theorem adoptUnderLock_ok {intent r : OrderIntent} {order : BrokerOrder} {s s' : Store}
    (h : adoptUnderLock intent order s = .ok r s') :
    ∃ current, s.orderIntents.get? intent.intentId = some current ∧
      current.withState intent.state = intent ∧ adopt current order s = .ok ⟨⟩ s' := by
  unfold adoptUnderLock at h; rw [immediate_ok, bind_ok] at h
  obtain ⟨found, s₁, hget, h⟩ := h
  obtain ⟨rfl, rfl⟩ := getOrderIntent_ok.1 (stored_ok.1 hget)
  cases hcurrent : s₁.orderIntents.get? intent.intentId with
  | none =>
    rw [hcurrent] at h; cases h
  | some current =>
    rw [hcurrent] at h
    simp only [bind_ok, require_ok, stored_ok, getOrderIntent_ok] at h
    obtain ⟨_, _, ⟨hsame, rfl⟩, _, s₂, hadopt, found, s₃, ⟨rfl, hs₃⟩, h⟩ := h
    subst hs₃; refine ⟨current, rfl, hsame, ?_⟩
    cases hadopted : s₃.orderIntents.get? intent.intentId with
    | none =>
      rw [hadopted] at h; cases h
    | some adopted =>
      rw [hadopted] at h; obtain ⟨_, rfl⟩ := pure_ok.1 h; exact hadopt

/-- The no-send evidence written after `LocalRequestBudgetRefusal`.
mirrors runtime.py:221-245 -/
def recordLocalNoSend (contentId : ContentId) (intentId clientOrderId : String) (at' : Int) :
    Repo PUnit :=
  immediate do
    let s ← get
    match s.orderIntents.get? intentId with
    | some intent =>
      if intent.state = .rejected ∧ s.orderByClient clientOrderId = none then do
        let _ ← recordOrderEvent
          { eventId := "core-local-nosend-" ++ contentId (.text intentId)
            intentId := some intentId
            brokerOrderId := none
            eventType := localNoSendType
            occurredAt := at'
            detail := .localNoSend ⟨budgetContract, clientOrderId, true⟩ }
        pure ⟨⟩
      else pure ⟨⟩
    | none => pure ⟨⟩

end Quantbot.L4
