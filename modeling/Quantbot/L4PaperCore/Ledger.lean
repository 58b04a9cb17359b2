import Quantbot.L4PaperCore.Queue

/-!
# Costs, the derived ledger and cash authority

`paper_core/costs.py` and the ledger part of `paper_core/store.py`: holdings and
cash are derived from the frozen baseline and the attributable fills, and a
certification whose proof no longer equals them is revoked in the transaction
that changed them.
-/
namespace Quantbot.L4

open Core L1 L2 Txn

/-! ## Cost chains -/

/-- The latest revision on record for a fill's component (`current_costs` at the
latest cutoff).
mirrors costs.py:15-31 -/
def CoreStore.currentCost (s : CoreStore) (fillId : String) (component : CostComponent) :
    Option CostItem :=
  ((s.costs.map (·.2)).filter fun c =>
    decide (c.fillId = fillId ∧ c.component = component)).foldl (fun best c =>
      match best with
      | none => some c
      | some b => if b.revision < c.revision then some c else some b) none

/-- mirrors costs.py:34-53 -/
def recordCost (contentId : ContentId) (item : CostItem) (fill : Fill) : CoreTxn PUnit := do
  requireCore (item.effectiveStart ≤ fill.occurredAt ∧ fill.occurredAt ≤ item.effectiveEnd)
    "cost authority does not apply to fill time"
  let s ← get
  match s.currentCost item.fillId item.component with
  | none => do
    requireCore (item.revision = 1 ∧ item.supersedes = none) "cost predecessor missing"
    put (contentId (.cost item)) (.cost item)
  | some old =>
    if contentId (.cost old) = contentId (.cost item) then pure ⟨⟩
    else do
      requireCore (item.revision = old.revision + 1 ∧
          item.supersedes = some (contentId (.cost old)) ∧ old.recordedAt ≤ item.recordedAt)
        "cost revision conflicts with current predecessor"
      put (contentId (.cost item)) (.cost item)

/-- mirrors costs.py:56-60 -/
def actualFee (fill : Fill) (current : Option CostItem) : Option ℚ :=
  match current with
  | some item =>
    if item.source = .brokerReported ∨ item.source = .contractualZero then item.amount else none
  | none =>
    if fill.feeSource = .brokerReported ∨ fill.feeSource = .contractualZero then fill.fee else none

/-! ## Dictionaries of quantities -/

/-- A Python dict from symbols (or ids) to numbers. -/
abbrev Quantities := Table (String × ℚ) (·.1)

namespace Quantities

def value (q : Quantities) (k : String) : ℚ := ((q.get? k).map (·.2)).getD 0

/-- `dict(pairs)`. -/
def ofList (l : List (String × ℚ)) : Quantities := l.foldl (fun q p => q.upsert p) .empty

/-- `q[k] = q.get(k, 0) + x`. -/
def add (q : Quantities) (k : String) (x : ℚ) : Quantities := q.upsert (k, q.value k + x)

/-- `a == b` of two dicts. -/
def Same (a b : Quantities) : Prop := (∀ p ∈ a.rows, p ∈ b.rows) ∧ ∀ p ∈ b.rows, p ∈ a.rows
deriving Decidable

/-- `{s: q for s, q in a.items() if q != 0}`. -/
def nonzero (q : Quantities) : Quantities :=
  ⟨q.rows.filter fun p => decide (p.2 ≠ 0), (List.filter_sublist.map _).nodup q.nodup⟩

end Quantities

/-! ## The ledger -/

/-- What `ledger` accumulates over the fills. -/
structure LedgerState where
  quantities : Quantities
  cash : ℚ
  cashComplete : Bool
  totals : Quantities

/-- The intent of a linked client id. -/
def CoreStore.linkedClient (s : CoreStore) (clientOrderId : String) : Option OrderIntent :=
  (s.linkedIntents.map (·.2)).find? fun i => decide (i.clientOrderId = clientOrderId)

/-- Two sets of ids written as lists. -/
def SameIds (a b : List String) : Prop := (∀ x ∈ a, x ∈ b) ∧ ∀ x ∈ b, x ∈ a
deriving Decidable

/-- The fills the ledger counts: on the broker lane only those of linked orders. -/
def CoreStore.ledgerFills (s : CoreStore) : List Fill :=
  if s.config.evidenceLane = .brokerPaper then
    s.listFills.filter fun f => match s.brokerOrders.get? f.brokerOrderId with
      | some o => (s.linkedClient o.clientOrderId).isSome
      | none => false
  else s.listFills

/-- One external owner event. -/
def ledgerExternal (l : LedgerState) (e : ExternalOwnerEvent) : LedgerState :=
  { l with
    quantities := l.quantities.add e.symbol e.quantityDelta
    cash := l.cash + e.netCash.getD 0
    cashComplete := l.cashComplete && e.netCash.isSome }

/-- One fill of the ledger. -/
def ledgerFill (s : CoreStore) (l : LedgerState) (fill : Fill) : CoreTxn LedgerState :=
  match s.brokerOrders.get? fill.brokerOrderId with
  | none => throw .noResult
  | some order =>
    match s.linkedClient order.clientOrderId with
    | none => throw (.store (.stateConflict "unowned or inconsistent fill"))
    | some intent => do
      requireCore (fill.symbol = intent.symbol ∧ fill.side = intent.side)
        "unowned or inconsistent fill"
      let totals := l.totals.add fill.brokerOrderId fill.quantity
      requireCore (totals.value fill.brokerOrderId ≤ order.filledQuantity)
        "fill quantity exceeds acknowledged ownership"
      let fee := actualFee fill (s.currentCost fill.fillId .fee)
      pure
        { quantities := l.quantities.add fill.symbol fill.signedQuantity
          cash := l.cash - fill.signedQuantity * fill.price - fee.getD 0
          cashComplete := l.cashComplete && fee.isSome
          totals := totals }

/-- The complete cash activity over exactly these fills with the latest watermark. -/
def cashAuthority (contentId : ContentId) (s : CoreStore) (fillIds : List String) :
    Option CashActivity :=
  (((s.cashActivities.map (·.2)).filter fun a =>
    decide (a.complete ∧ SameIds (a.movements.map (·.1)) fillIds))).foldl (fun best a =>
      match best with
      | none => some a
      | some b =>
        if toLex (b.watermark, contentId (.cashActivity b)) <
            toLex (a.watermark, contentId (.cashActivity a)) then some a else some b) none

/-- Holdings, cash where it is complete, and the fills counted.
mirrors store.py:211-294 -/
def ledger (contentId : ContentId) : CoreTxn (Quantities × Option ℚ × List String) := do
  let s ← get
  match s.baselines with
  | [baseline] => do
    let fills := s.ledgerFills
    let initial := s.externalEvents.foldl ledgerExternal
      ⟨.ofList baseline.quantities, baseline.cash, true, .empty⟩
    let l ← fills.foldlM (ledgerFill s) initial
    let ids := fills.map (·.fillId)
    let cash := match cashAuthority contentId s ids with
      | some a => some (baseline.cash + (a.movements.map (·.2)).sum)
      | none => if l.cashComplete then some l.cash else none
    pure (l.quantities.nonzero, cash, ids)
  | _ => throw .noResult

/-! ## Cash authority -/

/-- The proof still equals the ledger (store.py:184-191). -/
def ProofCurrent (proof : ReconciliationProof) (quantities : Quantities) (cash : Option ℚ)
    (fillIds : List String) : Prop :=
  proof.cashComplete ∧ cash ≠ none ∧ proof.expectedCash = cash ∧ some proof.accountCash = cash ∧
    SameIds proof.fillIds fillIds ∧ (Quantities.ofList proof.expectedQuantities).Same quantities
deriving Decidable

/-- Revoke one certification unless its proof is current. -/
def revokeStale (quantities : Quantities) (cash : Option ℚ) (fillIds sourceIds : List String)
    (availableAt : Int) (row : Certification) : CoreTxn PUnit := do
  let s ← get
  match s.proof? row.proofId with
  | none => throw .noResult
  | some proof =>
    if ProofCurrent proof quantities cash fillIds then pure ⟨⟩
    else do
      modify fun s => { s with
        revocations := s.revocations.insert ⟨row.snapshotId, .ledgerChanged sourceIds⟩ }
      revokedProof row.proofId (some availableAt)

/-- mirrors store.py:166-203 -/
def revokeStaleCash (contentId : ContentId) (sourceIds : List String) (availableAt : Int) :
    CoreTxn PUnit := do
  let (quantities, cash, fillIds) ← ledger contentId
  let s ← get
  (s.certifications.rows.filter fun c =>
    decide (s.revocations.get? c.snapshotId = none)).forM
      (revokeStale quantities cash fillIds sourceIds availableAt)

end Quantbot.L4
