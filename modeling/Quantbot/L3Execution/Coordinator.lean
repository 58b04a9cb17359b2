import Quantbot.L3Execution.Recovery

/-!
# The execution coordinator

`ExecutionCoordinator` of `execution/coordinator.py`: `submit_durable` and
`reconcile_durable` as a machine. A phase is a point at which the call awaits the
broker or opens its next transaction; between two phases nothing else of the call
is visible to another process, and a process may die in any of them.

What the gates decide and what the broker answers are inputs. The hooks a caller
installs are transactions over the caller's whole store, of which the order ledger
is a part (`Session`); they evolve the ledger as every transaction does.
-/
namespace Quantbot.L3

open Core L1 L2 Txn

/-! ## Transactions -/

/-- mirrors risk/models.py:117-120 -/
inductive OrderPurpose
  | entry | strategyExit | drawdownLiquidation
deriving DecidableEq, Repr

def OrderPurpose.exits (p : OrderPurpose) : Bool := p = .strategyExit ∨ p = .drawdownLiquidation

/-- mirrors coordinator.py:147-163 -/
def competingExit (pending intent : OrderIntent) : Bool :=
  if pending.symbol ≠ intent.symbol ∨ pending.side ≠ intent.side ∨
      pending.intentId = intent.intentId then false
  else if pending.state = .riskApproved then
    -- a claimed order precedes every prepared one; among these the older proceeds
    decide (intent.state = .riskApproved ∧
      toLex (pending.createdAt, pending.intentId) < toLex (intent.createdAt, intent.intentId))
  else true

/-- `_claim_exit`.
mirrors coordinator.py:262-294 -/
def claimExit (intent : OrderIntent) : Exec OrderIntent := do
  let s ← get
  require (¬ (s.unresolvedIntents.any fun pending => competingExit pending intent))
    (.blocked ["EXIT_REDUCING_ORDER_PENDING"])
  match s.orderIntents.get? intent.intentId with
  | none => do
    let _ ← stored (createOrderIntent intent)
    stored (transitionOrderIntent intent.intentId .orderCreated .riskApproved)
  | some existing => do
    require (existing = intent)
      (.store (.stateConflict "exit claim conflicts with its durable intent"))
    stored (transitionOrderIntent intent.intentId .orderCreated .riskApproved)

/-- `_transition`. -/
def transition (intentId : String) (target expected : IntentState) : Exec OrderIntent :=
  stored (transitionOrderIntent intentId target expected)

/-- `_record_unknown_incident`.
mirrors coordinator.py:318-331 -/
def recordUnknownIncident (sha256 : String → String) (intent : OrderIntent) (retries : Nat) :
    Exec PUnit := do
  let _ ← stored (createIncident
    { incidentId := "submission-unknown-" ++ sha256 intent.intentId
      severity := "ERROR"
      kind := "SUBMISSION_UNKNOWN"
      message := "Broker submission outcome remains uncertain after bounded recovery"
      occurredAt := intent.createdAt
      detail := .submissionUnknown intent.clientOrderId retries })
  pure ⟨⟩

/-- `_stored_intent`.
mirrors coordinator.py:333-342 -/
def storedIntent (expected : OrderIntent) : Exec OrderIntent := do
  match ← stored (getOrderIntent expected.intentId) with
  | none => throw (.runtime ("durable order intent not found: " ++ expected.intentId))
  | some row => do
    require (row.withState expected.state = expected) (.brokerProtocol
      ("durable order intent " ++ expected.intentId ++ " does not match the requested order"))
    pure row

/-- `_stored_order`.
mirrors coordinator.py:344-354 -/
def storedOrder (intent : OrderIntent) : Exec BrokerOrder := do
  let s ← get
  match s.orderByClient intent.clientOrderId with
  | none => throw (.brokerProtocol
      ("accepted order intent " ++ intent.intentId ++ " has no durable broker order"))
  | some order => do
    assertAckMatchesIntent intent order
    pure order

/-! ## The broker's answers -/

/-- What a broker call raises. `budget` is `LocalRequestBudgetRefusal`, a
`BrokerRequestError` with status 429 raised before any I/O. -/
inductive BrokerFailure
  | request (statusCode : Option Int)
  | budget (method : String) (clientOrderId : Option String)
  | transport
  | uncertain
  | protocol
deriving DecidableEq, Repr

/-- `error.status_code` of a `BrokerRequestError`. -/
def BrokerFailure.statusCode : BrokerFailure → Option Int
  | .request code => code
  | .budget _ _ => some 429
  | _ => none

/-- A definitive refusal: a `BrokerRequestError` below 500. -/
def BrokerFailure.Refuses (f : BrokerFailure) : Prop := ∃ code ∈ f.statusCode, code < 500
deriving Decidable

/-- The lookup failures that leave a submission uncertain. -/
def BrokerFailure.lookupUncertain : BrokerFailure → Bool
  | .request _ | .budget _ _ | .transport => true
  | .uncertain | .protocol => false

abbrev SubmitReply := Except BrokerFailure BrokerOrder

/-- The answer is a `LocalRequestBudgetRefusal`: no request has left. -/
def SubmitReply.unsent : SubmitReply → Bool
  | .error (.budget _ _) => true
  | _ => false

abbrev LookupReply := Except BrokerFailure (Option BrokerOrder)

/-- mirrors coordinator.py:41-45 -/
structure SubmissionResult where
  intent : OrderIntent
  brokerOrder : BrokerOrder
  recoveredAfterAmbiguity : Bool := false
  notFoundRetries : Nat := 0
deriving DecidableEq

/-- How a call raises. -/
inductive CallError (ε : Type)
  | blocked (reasons : List String)
  | notResumable (intent : OrderIntent)
  | uncertain (message : String)
  | broker (failure : BrokerFailure)
  | store (error : ε)

/-! ## Phases -/

/-- Where a call of `submit_durable` or `reconcile_durable` stands. -/
inductive Phase (ε : Type)
  | idle
  /-- `_stored_intent`, then the branch on the stored state. -/
  | submitDurable (intent : OrderIntent) (purpose : OrderPurpose)
  | reconcileDurable (intent : OrderIntent)
  | initialGate (stored : OrderIntent) (purpose : OrderPurpose)
  /-- `RISK_APPROVED` to `ORDER_CREATED`. -/
  | prepare (stored : OrderIntent) (purpose : OrderPurpose)
  | finalGate (intent : OrderIntent) (purpose : OrderPurpose)
  /-- `ORDER_CREATED` to `SUBMITTING` or `ERROR`. -/
  | claim (intent : OrderIntent) (purpose : OrderPurpose) (reasons : List String)
  | post (intent submitting : OrderIntent) (retries : Nat)
  | posted (intent submitting : OrderIntent) (retries : Nat)
  /-- `SUBMITTING` to `REJECTED`, then raise. -/
  | rejecting (intent : OrderIntent) (failure : BrokerFailure)
  | noSend (intent : OrderIntent) (failure : BrokerFailure)
  /-- `SUBMITTING` to `SUBMISSION_UNKNOWN`, then look the order up. -/
  | unknown (intent : OrderIntent) (retries : Nat)
  | lookup (intent submitting : OrderIntent) (retries : Nat)
  /-- `SUBMISSION_UNKNOWN` to `SUBMITTING`, then post again. -/
  | retry (intent : OrderIntent) (retries : Nat)
  | incident (intent : OrderIntent) (retries : Nat) (message : String)
  /-- `_adopt`; `onProtocol` is the state an `ERROR` transition expects, if one follows. -/
  | adopting (intent : OrderIntent) (order : BrokerOrder) (onProtocol : Option IntentState)
      (recovered : Bool) (retries : Nat)
  /-- Transition to `ERROR`, then raise. -/
  | failing (intentId : String) (expected : IntentState) (error : CallError ε)
  /-- `_recover_persisted_submission`. -/
  | recovering (stored : OrderIntent)
  | recoverUnknown (stored : OrderIntent)
  | reconciling (stored : OrderIntent)
  | reconcile (stored : OrderIntent) (found : BrokerOrder)
  | storedOrder (stored : OrderIntent)
  | done (result : Except (CallError ε) SubmissionResult)
  /-- The process died. -/
  | crashed

/-- What a phase waits for. `reading` is what a hook reads beside the store. -/
inductive Input (η : Type)
  | run (reading : η)
  | gate (reasons : List String)
  | acquisitionFailed (failure : BrokerFailure)
  /-- The request of `submit_order` leaves. -/
  | send
  | submitReply (reply : SubmitReply)
  | lookupReply (reply : LookupReply)

/-- What the broker sees of a call. `sent` is false of a `submit_order` that was
refused before any I/O. -/
inductive Action
  | submit (intentId clientOrderId : String) (sent : Bool)
  | lookup (intentId clientOrderId : String) (found : Bool)
deriving DecidableEq, Repr

/-! ## Coordinators -/

/-- A store with the order ledger in it, and the errors of its transactions. -/
structure Session (σ ε : Type) where
  ledger : σ → Store
  setLedger : σ → Store → σ
  raise : ExecError → ε
  ledger_set : ∀ s t, ledger (setLedger s t) = t

variable {σ ε η : Type}

namespace Session

variable (b : Session σ ε)

/-- A transaction of the coordinator's own. -/
def exec {α : Type} (x : Exec α) : Txn σ ε α := zoom b.ledger b.setLedger b.raise x

/-- The ledger evolves. -/
def Evolves (s s' : σ) : Prop := L2.Evolves (b.ledger s) (b.ledger s')

instance : IsPreorder σ b.Evolves where
  refl s := L2.Evolves.rfl' (b.ledger s)
  trans _ _ _ h h' := h.trans' h'

theorem exec_ok {α : Type} {x : Exec α} {s s' : σ} {a : α} :
    b.exec x s = .ok a s' ↔ ∃ t, x (b.ledger s) = .ok a t ∧ s' = b.setLedger s t := zoom_ok

theorem exec_evolves {α : Type} {x : Exec α} (h : Moves L2.Evolves x) :
    Moves b.Evolves (b.exec x) := h.zoom fun s t ht => by
  show L2.Evolves (b.ledger s) (b.ledger (b.setLedger s t))
  rw [b.ledger_set]
  exact ht

end Session

/-- An `ExecutionCoordinator`: its policy and the methods and hooks that differ.
mirrors coordinator.py:168-189 -/
structure Coordinator (b : Session σ ε) (η : Type) where
  maxNotFoundRetries : Nat := 1
  /-- `_adopt`. -/
  adopt : OrderIntent → BrokerOrder → Exec OrderIntent := adoptAcknowledgement
  transactionalSendCheck : Option (η → OrderIntent → OrderPurpose → Txn σ ε (List String)) := none
  transactionalSendRefusal :
    Option (η → OrderIntent → OrderPurpose → List String → Txn σ ε PUnit) := none
  /-- What follows a `LocalRequestBudgetRefusal` of the send. -/
  recordNoSend : Option (η → OrderIntent → Txn σ ε PUnit) := none
  retries_le : maxNotFoundRetries ≤ 3 := by decide
  adopt_evolves : ∀ i o, Moves Evolves (adopt i o)
  check_evolves : ∀ f ∈ transactionalSendCheck, ∀ r i p, Moves b.Evolves (f r i p) := by simp
  refusal_evolves : ∀ f ∈ transactionalSendRefusal, ∀ r i p l, Moves b.Evolves (f r i p l) := by
    simp
  noSend_evolves : ∀ f ∈ recordNoSend, ∀ r i, Moves b.Evolves (f r i) := by simp

/-- What one step of a call does. -/
structure Step (σ ε : Type) where
  phase : Phase ε
  store : σ
  action : Option Action := none

/-- Commit and go on, or roll back and raise. -/
def commit {α : Type} (x : Txn σ ε α) (next : α → Phase ε) (raised : ε → Phase ε) (s : σ) :
    Step σ ε :=
  match immediate x s with
  | .ok a s' => { phase := next a, store := s' }
  | .error e s' => { phase := raised e, store := s' }

/-- The error leaves the call. -/
def raised (e : ε) : Phase ε := .done (.error (.store e))

/-- Where `submit_durable` goes on from the stored state.
mirrors coordinator.py:400-437 -/
def resume (purpose : OrderPurpose) (stored : OrderIntent) : Phase ε :=
  match stored.state with
  | .submitting | .submissionUnknown => .recovering stored
  | .brokerAccepted | .partiallyFilled | .filled => .storedOrder stored
  | .riskApproved => .initialGate stored purpose
  | .orderCreated => .finalGate stored purpose
  | _ => .done (.error (.notResumable stored))

/-- Where `reconcile_durable` goes on.
mirrors coordinator.py:447-455 -/
def resumeReconcile (stored : OrderIntent) : Phase ε :=
  match stored.state with
  | .submitting | .submissionUnknown => .recovering stored
  | .brokerAccepted | .partiallyFilled => .reconciling stored
  | _ => .done (.error (.notResumable stored))

/-- The transaction that takes the intent to `ORDER_CREATED` (coordinator.py:428-436). -/
def prepareIntent (intent : OrderIntent) (purpose : OrderPurpose) : Exec OrderIntent :=
  if purpose.exits then claimExit intent
  else transition intent.intentId .orderCreated .riskApproved

/-- What follows an answer to `submit_order`.
mirrors coordinator.py:629-660 -/
def afterSubmit (intent submitting : OrderIntent) (retries : Nat) : SubmitReply → Phase ε
  | .ok order => .adopting submitting order (some submitting.state) (decide (0 < retries)) retries
  | .error .transport | .error .uncertain => .unknown intent retries
  | .error .protocol => .failing intent.intentId .submitting (.broker .protocol)
  | .error failure =>
    if retries = 0 ∧ failure.Refuses then .rejecting intent failure else .unknown intent retries

/-- The reconciliation, and the handling of its errors.
mirrors coordinator.py:468-500 -/
def Session.reconcileStep (b : Session σ ε) (intent : OrderIntent) (found : BrokerOrder) (s : σ) : Step σ ε :=
  match reconcileAccepted intent found (b.ledger s) with
  | .ok reconciled t =>
    { phase := .done (.ok { intent := reconciled, brokerOrder := found }),
      store := b.setLedger s t }
  | .error (.brokerProtocol m) _ =>
    { phase := .failing intent.intentId intent.state (.store (b.raise (.brokerProtocol m))),
      store := s }
  | .error (.store (.invalidTransition _)) _ | .error (.store (.stateConflict _)) _ =>
    { phase := .failing intent.intentId intent.state (.store (b.raise
        (.brokerProtocol "broker lifecycle conflicts with durable order state"))),
      store := s }
  | .error e _ => { phase := raised (b.raise e), store := s }

namespace Coordinator

variable {b : Session σ ε} (c : Coordinator b η)

/-- The check runs when the gate has no reason of its own. -/
def sendObjections (reading : η) (intent : OrderIntent) (purpose : OrderPurpose)
    (reasons : List String) : Txn σ ε (List String) :=
  match c.transactionalSendCheck with
  | some check => if reasons = [] then check reading intent purpose else pure []
  | none => pure []

/-- The refusal's evidence; without a check there is no refusal hook either. -/
def recordRefusal (reading : η) (intent : OrderIntent) (purpose : OrderPurpose)
    (reasons : List String) : Txn σ ε PUnit :=
  match c.transactionalSendCheck, c.transactionalSendRefusal with
  | some _, some refuse => if reasons = [] then pure ⟨⟩ else refuse reading intent purpose reasons
  | _, _ => pure ⟨⟩

/-- The last transaction before a send: the check, the refusal's evidence and the
compare-and-set of the send state share one lock. The reasons left over, none if the
intent is now `SUBMITTING`.
mirrors coordinator.py:590-626 -/
def claimSend (reading : η) (intent : OrderIntent) (purpose : OrderPurpose)
    (reasons : List String) : Txn σ ε (List String × OrderIntent) := do
  let objections ← c.sendObjections reading intent purpose reasons
  c.recordRefusal reading intent purpose (reasons ++ objections)
  let claimed ← b.exec (transition intent.intentId
    (if reasons ++ objections = [] then .submitting else .error) .orderCreated)
  pure (reasons ++ objections, claimed)

/-- After the claim: blocked, or the first post. -/
def afterClaim (intent : OrderIntent) : List String × OrderIntent → Phase ε
  | ([], submitting) => .post intent submitting 0
  | (reasons, _) => .done (.error (.blocked reasons))

/-- The error of a refused send leaves the call; a `LocalRequestBudgetRefusal` of this
send is recorded first.
mirrors paper_core/runtime.py:221-245 -/
def raiseRefusal (intent : OrderIntent) (failure : BrokerFailure) : Phase ε :=
  if c.recordNoSend.isSome ∧ failure = .budget "POST" (some intent.clientOrderId) then
    .noSend intent failure
  else .done (.error (.broker failure))

/-- The evidence of a send that was refused before any I/O. -/
def noSend (reading : η) (intent : OrderIntent) : Txn σ ε PUnit :=
  match c.recordNoSend with
  | some record => record reading intent
  | none => pure ⟨⟩

/-- `_adopt`, and the handling of its `BrokerProtocolError`. -/
def adoptStep (intent : OrderIntent) (order : BrokerOrder) (onProtocol : Option IntentState)
    (recovered : Bool) (retries : Nat) (s : σ) : Step σ ε :=
  match immediate (c.adopt intent order) (b.ledger s) with
  | .ok adopted t =>
    { phase := .done (.ok ⟨adopted, order, recovered, retries⟩), store := b.setLedger s t }
  | .error (.brokerProtocol m) _ =>
    match onProtocol with
    | some expected =>
      { phase := .failing intent.intentId expected (.store (b.raise (.brokerProtocol m))), store := s }
    | none => { phase := raised (b.raise (.brokerProtocol m)), store := s }
  | .error e _ => { phase := raised (b.raise e), store := s }

/-- What follows the lookup after an ambiguous send.
mirrors coordinator.py:662-693 -/
def afterLookup (intent submitting : OrderIntent) (retries : Nat) : LookupReply → Phase ε
  | .ok (some order) => .adopting submitting order none true retries
  | .ok none =>
    if c.maxNotFoundRetries ≤ retries then
      .incident intent retries "submission remains uncertain after bounded same-ID recovery"
    else .retry intent retries
  | .error failure =>
    if failure.lookupUncertain then
      .incident intent retries "submission remains uncertain because lookup failed"
    else .done (.error (.broker failure))

/-- What follows the lookup of a submission that was left behind.
mirrors coordinator.py:356-387 -/
def afterRecovery (stored : OrderIntent) : LookupReply → Phase ε
  | .ok (some order) => .adopting stored order (some stored.state) true 0
  | .ok none =>
    if stored.state = .submitting then .recoverUnknown stored
    else .incident stored 0 "submission remains uncertain after restart lookup"
  | .error failure =>
    if failure.lookupUncertain then
      .incident stored 0 "submission remains uncertain because lookup failed"
    else .done (.error (.broker failure))

/-- What follows the lookup of an accepted order.
mirrors coordinator.py:456-467 -/
def afterReconcile (stored : OrderIntent) : LookupReply → Phase ε
  | .ok (some found) => .reconcile stored found
  | .ok none => .done (.error (.uncertain
      "accepted order state cannot be reconciled because the broker did not find it"))
  | .error failure =>
    if failure.lookupUncertain then .done (.error (.uncertain
      "accepted order state cannot be reconciled because broker lookup failed"))
    else .done (.error (.broker failure))

/-- The lookup found nothing, or the order. -/
def lookupAction (intent : OrderIntent) : LookupReply → Option Action
  | .ok found => some (.lookup intent.intentId intent.clientOrderId found.isSome)
  | .error _ => none

/-- One step of a call: the phase's transaction, request or answer.
mirrors coordinator.py:356-500, 559-693 -/
def step (sha256 : String → String) (s : σ) : Phase ε → Input η → Option (Step σ ε)
  | .submitDurable intent purpose, .run _ =>
    some (commit (b.exec (L3.storedIntent intent)) (resume purpose) raised s)
  | .reconcileDurable intent, .run _ =>
    some (commit (b.exec (L3.storedIntent intent)) resumeReconcile raised s)
  | .initialGate stored purpose, .gate reasons =>
    some { phase := if reasons = [] then .prepare stored purpose
                    else .done (.error (.blocked reasons)), store := s }
  | .initialGate _ _, .acquisitionFailed failure
  | .finalGate _ _, .acquisitionFailed failure =>
    some { phase := .done (.error (.broker failure)), store := s }
  | .prepare stored purpose, .run _ =>
    some (commit (b.exec (prepareIntent stored purpose)) (.finalGate · purpose) raised s)
  | .finalGate intent purpose, .gate reasons =>
    some { phase := .claim intent purpose reasons, store := s }
  | .claim intent purpose reasons, .run reading =>
    some (commit (c.claimSend reading intent purpose reasons) (afterClaim intent) raised s)
  | .post intent submitting retries, .send =>
    some { phase := .posted intent submitting retries, store := s,
           action := some (.submit intent.intentId intent.clientOrderId true) }
  | .post intent submitting retries, .submitReply reply =>
    if reply.unsent then
      some { phase := afterSubmit intent submitting retries reply, store := s,
             action := some (.submit intent.intentId intent.clientOrderId false) }
    else none
  | .posted intent submitting retries, .submitReply reply =>
    if reply.unsent then none
    else some { phase := afterSubmit intent submitting retries reply, store := s }
  | .rejecting intent failure, .run _ =>
    some (commit (b.exec (transition intent.intentId .rejected .submitting))
      (fun _ => c.raiseRefusal intent failure) raised s)
  | .noSend intent failure, .run reading =>
    some (commit (c.noSend reading intent) (fun _ => .done (.error (.broker failure))) raised s)
  | .unknown intent retries, .run _ =>
    some (commit (b.exec (transition intent.intentId .submissionUnknown .submitting))
      (.lookup intent · retries) raised s)
  | .lookup intent submitting retries, .lookupReply reply =>
    some { phase := c.afterLookup intent submitting retries reply, store := s,
           action := lookupAction intent reply }
  | .retry intent retries, .run _ =>
    some (commit (b.exec (transition intent.intentId .submitting .submissionUnknown))
      (.post intent · (retries + 1)) raised s)
  | .incident intent retries message, .run _ =>
    some (commit (b.exec (recordUnknownIncident sha256 intent retries))
      (fun _ => .done (.error (.uncertain message))) raised s)
  | .adopting intent order onProtocol recovered retries, .run _ =>
    some (c.adoptStep intent order onProtocol recovered retries s)
  | .failing intentId expected error, .run _ =>
    some (commit (b.exec (transition intentId .error expected)) (fun _ => .done (.error error))
      raised s)
  | .recovering stored, .lookupReply reply =>
    some { phase := afterRecovery stored reply, store := s, action := lookupAction stored reply }
  | .recoverUnknown stored, .run _ =>
    some (commit (b.exec (transition stored.intentId .submissionUnknown .submitting))
      (.incident · 0 "submission remains uncertain after restart lookup") raised s)
  | .reconciling stored, .lookupReply reply =>
    some { phase := afterReconcile stored reply, store := s, action := lookupAction stored reply }
  | .reconcile stored found, .run _ => some (b.reconcileStep stored found s)
  | .storedOrder stored, .run _ =>
    some (commit (b.exec (L3.storedOrder stored)) (fun order => .done (.ok ⟨stored, order, false, 0⟩))
      raised s)
  | _, _ => none

end Coordinator

end Quantbot.L3
