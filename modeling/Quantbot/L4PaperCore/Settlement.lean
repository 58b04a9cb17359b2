import Quantbot.L4PaperCore.Work

/-!
# Settlement authority and entry claims

`definitively_unsent` of `paper_core/settlement.py`: the one predicate on which a
slot, a reservation or an exit quantity is released. Below it, the writes of an
entry claim (`paper_core/trader.py`), which open a lot.
-/
namespace Quantbot.L4

open Core L1 L2 Txn

/-! ## Definitively unsent -/

/-- `REFUSAL`. -/
def entryRefusal : String := "CORE_ENTRY_SEND_REFUSED"

/-- `EXIT_REFUSAL`. -/
def exitRefusal : String := "CORE_OWNED_EXIT_SEND_REFUSED"

def localNoSendType : String := "CORE_LOCAL_SEND_NOT_ATTEMPTED"

def sendContract : String := "core-final-send-v1"

def budgetContract : String := "ACCOUNT_BUDGET_BEFORE_IO_V1"

/-- The event shows that no send was attempted under the intent's client id. -/
def showsNoSend (clientOrderId : String) (e : OrderEventRow) : Bool :=
  match e.detail with
  | .localNoSend n => decide (e.eventType = localNoSendType ∧ n.contract = budgetContract ∧
      n.clientOrderId = clientOrderId ∧ n.definitivelyUnsent)
  | _ => false

/-- The event shows a refusal latched before the send state was left. -/
def showsRefusal (e : OrderEventRow) : Bool :=
  match e.detail with
  | .sendRefusal r => decide ((e.eventType = entryRefusal ∨ e.eventType = exitRefusal) ∧
      r.definitivelyUnsent ∧ r.stateAtRefusal = IntentState.orderCreated.value ∧
      r.guardContract = sendContract)
  | _ => false

/-- mirrors settlement.py:21-43 -/
def definitivelyUnsent (s : Store) (intentId : String) : Bool :=
  match s.orderIntents.get? intentId with
  | none => false
  | some intent =>
    if intent.state ≠ .error ∧ intent.state ≠ .rejected then false
    else if s.orderByClient intent.clientOrderId ≠ none then false
    else if intent.state = .rejected then
      (s.eventsOf intentId).any (showsNoSend intent.clientOrderId)
    else (s.eventsOf intentId).any showsRefusal

theorem definitivelyUnsent_iff {s : Store} {i : String} :
    definitivelyUnsent s i = true ↔ ∃ intent, s.orderIntents.get? i = some intent ∧
      s.orderByClient intent.clientOrderId = none ∧
      ((intent.state = .rejected ∧ ∃ e ∈ s.eventsOf i, showsNoSend intent.clientOrderId e) ∨
        (intent.state = .error ∧ ∃ e ∈ s.eventsOf i, showsRefusal e)) := by
  unfold definitivelyUnsent
  cases hi : s.orderIntents.get? i with
  | none => simp
  | some intent =>
    cases ho : s.orderByClient intent.clientOrderId with
    | some o => simp [ho]
    | none =>
      cases hs : intent.state <;> simp [hs, ho]

/-! ## Claims -/

/-- The writes of an entry claim, after every gate has passed: the decision, the
prepared intent, its link and the lot's first notification.
mirrors trader.py:376-631 -/
def claimEntry (contentId : ContentId) (decision : Decision) (intent : OrderIntent)
    (protectionId : String) : CoreTxn PUnit :=
  immediate do
    put (contentId (.decision decision)) (.decision decision)
    let _ ← onLedger (createOrderIntent intent)
    insertLink
      { intentId := intent.intentId
        decisionId := contentId (.decision decision)
        protectionId := protectionId
        observationId := decision.observationId
        role := .entry
        lotId := contentId (.decision decision) }
    dirty [contentId (.decision decision)] (some decision.recordedAt) true

end Quantbot.L4
