import Quantbot.Core.Table
import Quantbot.Core.Txn
import Quantbot.L1Domain.Models

/-!
# The order ledger's tables

The part of `storage/schema.py` that the order and fill ledger lives in:
`order_intents`, `broker_orders`, `fills`, `order_events` and `incidents`, each
under its primary key; `client_order_id` is unique in the first two as well.

A detail column holds JSON written by a few writers; each writer's object is one
constructor, its numbers by value as `_encode_json` normalises them.
-/
namespace Quantbot.L2

open Core L1

/-! ## Order events -/

/-- `detail` of a send refusal (send_guard.py:64-79, 448-466). -/
structure SendRefusal where
  guardContract : String
  reasons : List String
  definitivelyUnsent : Bool
  stateAtRefusal : String
deriving DecidableEq, Repr

/-- `detail` of `CORE_LOCAL_SEND_NOT_ATTEMPTED` (runtime.py:238-243). -/
structure LocalNoSend where
  contract : String
  clientOrderId : String
  definitivelyUnsent : Bool
deriving DecidableEq, Repr

/-- `order_events.detail_json`, by writer. -/
inductive EventDetail
  | tradeUpdate (update : TradeUpdate)
  | sendRefusal (refusal : SendRefusal)
  | localNoSend (noSend : LocalNoSend)
  | sendAuthorized (contract : String)
  | exitTriggered (lotId protectionId : String)
deriving DecidableEq

/-- A row of `order_events`. -/
structure OrderEventRow where
  eventId : String
  intentId : Option String
  brokerOrderId : Option String
  eventType : String
  occurredAt : Int
  detail : EventDetail
deriving DecidableEq

/-! ## Incidents -/

/-- `detail` of an incident, by writer. -/
inductive IncidentDetail
  | submissionUnknown (clientOrderId : String) (notFoundRetries : Nat)
  | evidence (sourceEvents clients sourceIds lotIds : List String) (accountScope : Bool)
      (disputedAuthorities : List String)
deriving DecidableEq, Repr

/-- A row of `incidents`. -/
structure IncidentRow where
  incidentId : String
  severity : String
  kind : String
  message : String
  occurredAt : Int
  detail : IncidentDetail
deriving DecidableEq, Repr

/-! ## The store -/

abbrev IntentTable := UTable OrderIntent (·.intentId) (·.clientOrderId)
abbrev OrderTable := UTable BrokerOrder (·.brokerOrderId) (·.clientOrderId)
abbrev FillTable := Table Fill (·.fillId)
abbrev EventTable := Table OrderEventRow (·.eventId)
abbrev IncidentTable := Table IncidentRow (·.incidentId)

@[ext] structure Store where
  orderIntents : IntentTable := .empty
  brokerOrders : OrderTable := .empty
  fills : FillTable := .empty
  orderEvents : EventTable := .empty
  incidents : IncidentTable := .empty
deriving DecidableEq

/-- What a repository call raises: `StateConflictError`, `RecordNotFoundError` and the
lifecycle's `InvalidOrderTransition`. -/
inductive StoreError
  | stateConflict (message : String)
  | recordNotFound (message : String)
  | invalidTransition (error : InvalidOrderTransition)
deriving DecidableEq, Repr

abbrev Repo := Txn Store StoreError

end Quantbot.L2
