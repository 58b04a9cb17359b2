import Quantbot.Core.StoredTime
import Quantbot.L4PaperCore.Certification

/-!
# Spending authority of a proof

`paper_core/funds.py`: what every entry boundary asks again of a certified proof,
over the ledger and the funds receipt as they stand in that transaction.

What other modules answer in a state of the store stands beside its tables
(`Surroundings`); nothing below assumes anything of it.
-/
namespace Quantbot.L4

open Core L1 L2 Txn

/-- A document under its content id. -/
structure Filed (α : Type) where
  id : String
  payload : α
deriving DecidableEq

abbrev FiledTable (α : Type) := Table (Filed α) (·.id)

/-- mirrors brokers/base.py:52-57 -/
structure BrokerAccountSnapshot where
  account : Account
  accountNumber : String
  status : String
  orderEntryAllowed : Bool
  restrictions : List String
deriving DecidableEq

/-- mirrors funds.py:19-41 -/
structure PaperFundsEvidence where
  recordedAt : Int
  releaseId : String
  evidenceLane : EvidenceLane
  endpoint : String
  accountId : String
  storeIdentity : String
  configId : String
  commissionId : String
  captureStarted : Int
  firstAccount : BrokerAccountSnapshot
  secondAccount : BrokerAccountSnapshot
  firstPositions : List Position
  secondPositions : List Position
  firstOpenOrders : List BrokerOrder
  secondOpenOrders : List BrokerOrder
deriving DecidableEq

/-- The fields of the commission the receipts are bound to. -/
structure Commission where
  id : String
  endpoint : String
deriving DecidableEq

/-- What other modules answer now: `ledger_state_id`, `commission_in_session` (`none`
where it raises a state conflict), `scoped_quantity_objections`,
`open_order_objections`, and the custody half of `opening_balance_source_valid`. -/
structure Surroundings where
  ledgerStateId : String
  commission : Option Commission
  scopedQuantity : ReconciliationProof → Int → Bool → List String
  openOrders : List BrokerOrder → List String
  scopedOpening : ReconciliationProof → Bool

/-- The core store with its binding and its funds receipts. -/
structure PaperStore extends CoreStore where
  storeIdentity : String
  configId : String
  funds : FiledTable PaperFundsEvidence := .empty
  surroundings : Surroundings

/-! ## Policy and stable reads -/

/-- mirrors funds.py:44-49 -/
def PaperBalancePolicy (config : CoreConfig) : Prop :=
  config.selectionPolicy = .signalOrExplore ∧ config.evidenceLane = .brokerPaper ∧
    config.clockProfile = .paperTime
deriving Decidable

/-- mirrors funds.py:52-63 -/
def SameSpendingAuthority (first other : Account) : Prop :=
  first.accountId = other.accountId ∧ first.currency = other.currency ∧
    first.cash = other.cash ∧ first.buyingPower = other.buyingPower ∧
    first.nonMarginableBuyingPower = other.nonMarginableBuyingPower
deriving Decidable

/-- mirrors funds.py:66-70 -/
def StableAccountReads (first other : BrokerAccountSnapshot) : Prop :=
  SameSpendingAuthority first.account other.account ∧
    { first with account := other.account } = other
deriving Decidable

/-- Two sorted lists are equal when one permutes the other.
mirrors funds.py:73-77 -/
def StablePositionReads (first other : List Position) : Prop :=
  let basis := fun p : Position => (p.symbol, p.quantity, p.averageEntryPrice)
  (first.map basis).Perm (other.map basis)
deriving Decidable

/-! ## The objections -/

/-- The certificate or the ledger no longer carries the proof.
mirrors funds.py:192-231 -/
def InventoryUnavailable (ids : ContentId) (s : PaperStore) (proof : ReconciliationProof)
    (now : Int) (latest : Bool) (quantities : Quantities) (cash : Option ℚ)
    (fills : List String) : Prop :=
  s.proof? (ids (.proof proof)) ≠ some proof ∨
  ((s.certificatesFor proof).get? (ids (.proof proof))).map (·.generation) ≠
    some proof.generation ∨
  (latest ∧ s.latestCertification ≠ some ⟨proof.generation, ids (.proof proof)⟩) ∨
  ¬ QuantityScopeShapeValid proof ∨
  (proof.quarantinedSymbols ≠ [] ∧ s.surroundings.scopedQuantity proof now latest ≠ []) ∨
  proof.account.accountId ≠ s.config.accountId ∨
  proof.releaseId ≠ s.config.releaseId ∨
  proof.evidenceLane ≠ s.config.evidenceLane ∨
  s.baselines.map (·.id) ≠ [proof.baselineId] ∨
  proof.expectedQuantities ≠ quantities.rows.insertionSort (·.1 ≤ ·.1) ∨
  proof.fillIds ≠ fills ∨
  proof.orderIds ≠ s.listBrokerOrders.map (·.brokerOrderId) ∨
  proof.expectedCash ≠ cash ∨
  proof.cashComplete ≠ cash.isSome ∨
  (cash ≠ none ∧ some proof.account.cash ≠ cash) ∨
  (proof.ledgerStateId ≠ none ∧ proof.ledgerStateId ≠ some s.surroundings.ledgerStateId) ∨
  s.revocations.get? ("core-certified-" ++ ids (.proof proof)) ≠ none
deriving Decidable

/-- The funds receipt does not stand behind the proof.
mirrors funds.py:250-283 -/
def FundsSourceInvalid (fundsId : PaperFundsEvidence → String) (s : PaperStore)
    (proof : ReconciliationProof) (now : Int) (receipt : PaperFundsEvidence)
    (commission : Commission) : Prop :=
  proof.fundsAuthority ≠ some .brokerPaperBalance ∨
  proof.ledgerStateId = none ∨
  fundsId receipt ≠ proof.acquisitionId ∨
  receipt.evidenceLane ≠ .brokerPaper ∨
  receipt.releaseId ≠ s.config.releaseId ∨
  receipt.accountId ≠ s.config.accountId ∨
  receipt.storeIdentity ≠ s.storeIdentity ∨
  receipt.configId ≠ s.configId ∨
  receipt.commissionId ≠ commission.id ∨
  receipt.endpoint ≠ commission.endpoint ∨
  ¬ StableAccountReads receipt.firstAccount receipt.secondAccount ∨
  ¬ StablePositionReads receipt.firstPositions receipt.secondPositions ∨
  receipt.firstAccount.account ≠ proof.account ∨
  receipt.firstPositions ≠ proof.positions ∨
  receipt.recordedAt ≠ proof.recordedAt ∨
  ¬ (0 ≤ receipt.recordedAt - receipt.captureStarted ∧
    receipt.recordedAt - receipt.captureStarted ≤ 5 * second) ∨
  ¬ (0 ≤ now - receipt.recordedAt ∧ now - receipt.recordedAt ≤ 120 * second) ∨
  receipt.firstOpenOrders.insertionSort (·.clientOrderId ≤ ·.clientOrderId) ≠
    receipt.secondOpenOrders.insertionSort (·.clientOrderId ≤ ·.clientOrderId) ∨
  (receipt.firstOpenOrders ≠ [] ∧ s.surroundings.openOrders receipt.firstOpenOrders ≠ []) ∨
  receipt.firstAccount.orderEntryAllowed = false ∨
  receipt.firstAccount.restrictions ≠ [] ∨
  proof.account.equity ≤ 0 ∨
  proof.account.cash ≤ 0 ∨
  proof.account.buyingPower ≤ 0
deriving Decidable

/-- The receipt and its commission; neither may be missing.
mirrors funds.py:238-286 -/
def fundsObjections (fundsId : PaperFundsEvidence → String) (s : PaperStore)
    (proof : ReconciliationProof) (now : Int) : List String :=
  match s.funds.get? proof.acquisitionId, s.surroundings.commission with
  | some receipt, some commission =>
    if FundsSourceInvalid fundsId s proof now receipt.payload commission then
      ["CORE_PAPER_FUNDS_SOURCE_INVALID"]
    else []
  | _, _ => ["CORE_PAPER_FUNDS_SOURCE_INVALID"]

/-- The objections; an error where the ledger raises.
mirrors funds.py:163-286 -/
def entryInventoryObjections (ids : ContentId) (fundsId : PaperFundsEvidence → String)
    (s : PaperStore) (proof : ReconciliationProof) (now : Int) (latest : Bool) :
    Except CoreError (List String) :=
  match ledger ids s.toCoreStore with
  | .error e _ => .error e
  | .ok (quantities, cash, fills) _ =>
    if InventoryUnavailable ids s proof now latest quantities cash fills then
      .ok ["CORE_INVENTORY_AUTHORITY_UNAVAILABLE"]
    else if ¬ PaperBalancePolicy s.config then
      .ok (if ProofCurrent proof quantities cash fills then []
        else ["CORE_CASH_AUTHORITY_UNAVAILABLE"])
    else .ok (fundsObjections fundsId s proof now)

/-! ## What no objection means -/

/-- What the boundary knows of a proof without objections. -/
structure InventoryCleared (ids : ContentId) (s : PaperStore) (proof : ReconciliationProof)
    (now : Int) (latest : Bool) : Prop where
  stored : s.proof? (ids (.proof proof)) = some proof
  certified : ((s.certificatesFor proof).get? (ids (.proof proof))).isSome
  newest : latest → s.latestCertification = some ⟨proof.generation, ids (.proof proof)⟩
  accountId : proof.account.accountId = s.config.accountId
  releaseId : proof.releaseId = s.config.releaseId
  evidenceLane : proof.evidenceLane = s.config.evidenceLane
  unrevoked : s.revocations.get? ("core-certified-" ++ ids (.proof proof)) = none
  recent : PaperBalancePolicy s.config → proof.recordedAt ≤ now ∧
    now ≤ proof.recordedAt + 120 * second

theorem entryInventory_cleared {ids : ContentId} {fundsId : PaperFundsEvidence → String}
    {s : PaperStore} {proof : ReconciliationProof} {now : Int} {latest : Bool}
    (h : entryInventoryObjections ids fundsId s proof now latest = .ok []) :
    InventoryCleared ids s proof now latest := by
  unfold entryInventoryObjections at h; split at h
  · cases h
  split at h
  · cases h
  next hinventory =>
  unfold InventoryUnavailable at hinventory
  simp only [not_or, not_not] at hinventory
  obtain ⟨hstored, hcert, hlatest, _, _, haccount, hrelease, hlane, _, _, _, _, _, _, _, _,
    hrevoked⟩ := hinventory
  refine ⟨hstored, ?_, ?_, haccount, hrelease, hlane, hrevoked, fun hpolicy => ?_⟩
  · rw [← Option.isSome_map, hcert]; rfl
  · intro hl; by_contra hne; exact hlatest ⟨hl, hne⟩
  · rw [if_neg (not_not.2 hpolicy)] at h; unfold fundsObjections at h
    split at h
    · split at h
      · cases h
      next hfunds =>
      unfold FundsSourceInvalid at hfunds; simp only [not_or, not_not] at hfunds
      omega
    · cases h

end Quantbot.L4
