import Quantbot.Core.Arith
import Quantbot.Core.Ordered
import Quantbot.L4PaperCore.Resolve

/-!
# The economics of a round trip

`_resolve` (`paper_core/outcomes.py:511-811`) with its numbers: the units a lot bought, sold and
paid as fees, and the gross, cash-flow and net profit of its round trip. What the round trip
rests on besides is that of `Resolve`.

The calculation is written over an arithmetic: `Arith.decimal` is what is computed. Fills are
read by `list_fills`, which orders them (`shown`); `record` is the lot's outcome revisions with
all their fields.

* `lotAccount_exact`: with exact numbers this is the evidence of `Resolve`.
* `resolveTrip_perm`: the order in which fills are stored is no matter.
-/
namespace Quantbot.L4.Economics

open Core L1 L2 L3

/-! ## Fills as they are listed -/

/-- `order_by(fills.c.occurred_at, fills.c.fill_id)`.
mirrors repositories.py:1471-1480 -/
def Listed (a b : Fill) : Prop :=
  toLex (encodedKey a.occurredAt, a.fillId) ≤ toLex (encodedKey b.occurredAt, b.fillId)
deriving Decidable

def listed (fills : FillTable) : FillTable where
  rows := fills.rows.insertionSort Listed
  nodup := ((List.perm_insertionSort Listed fills.rows).map _).nodup_iff.2 fills.nodup

/-- The store as its queries show it. -/
def shown (s : CoreStore) : CoreStore := { s with fills := listed s.fills }

section Model

variable (A : Arith) (v : OutcomeViews) (s : CoreStore)

/-! ## Trades -/

/-- mirrors outcomes.py:420-443 -/
def terminalEvidence (order : BrokerOrder) (cutoff : Int) : Option String :=
  let fills := s.fillsOf order.brokerOrderId
  if isOpenOrder order then none
  else if A.sum (fills.map (·.quantity)) ≠ order.filledQuantity then none
  else
    (((s.sources.filter fun p => decide (ClosesOrder order fills cutoff p.2)).insertionSort
      fun a b => toLex (a.2.recordedAt, a.1) ≤ toLex (b.2.recordedAt, b.1)).map (·.1)).head?

/-- mirrors outcomes.py:558-569 -/
def sentLink (asOf : Int) (acc : LotTrades) (role : LinkRole) (clientOrderId : String) :
    Except Halt LotTrades :=
  match s.orderByClient clientOrderId with
  | none => .error (.incomplete "ORDER_UNAVAILABLE")
  | some order =>
    match terminalEvidence A s order asOf with
    | none => .error (.incomplete "TERMINAL_ACTIVITY_WATERMARK_UNAVAILABLE")
    | some terminalId =>
      let fills := s.fillsOf order.brokerOrderId
      if ∃ f ∈ fills, asOf < f.occurredAt then .error (.incomplete "FILL_NOT_AVAILABLE")
      else
        let acc := { acc with sourceIds := acc.sourceIds ++ [terminalId] }
        .ok (match role with
          | .entry => { acc with buys := acc.buys ++ fills }
          | .exit => { acc with sells := acc.sells ++ fills })

/-- mirrors outcomes.py:541-569 -/
def tradeLink (asOf : Int) (acc : LotTrades) (link : IntentLink) : Except Halt LotTrades :=
  match s.intentOf link with
  | none => .error (.error (.runtime "AssertionError"))
  | some intent =>
    let acc := { acc with clients := acc.clients ++ [intent.clientOrderId] }
    let refusals := if link.role = .exit then localRefusals s intent.intentId asOf else []
    if refusals ≠ [] then .ok { acc with sourceIds := acc.sourceIds ++ refusals }
    else sentLink A s asOf acc link.role intent.clientOrderId

/-- The units left open.
mirrors outcomes.py:570-583 -/
def openQuantity (trades : LotTrades) (fees : LotAssetFees) : ℚ :=
  let quantity := A.sub (A.sum (trades.buys.map (·.quantity)))
    (A.sum (trades.sells.map (·.quantity)))
  if isCrypto trades.buys then A.sub quantity fees.quantity else quantity

/-- `fill.quantity if fill.side is OrderSide.BUY else -fill.quantity`; the sign rounds. -/
def signed (f : Fill) : ℚ :=
  match f.side with
  | .buy => f.quantity
  | .sell => A.sub 0 f.quantity

/-- mirrors outcomes.py:586-593 -/
def goesShort : ℚ → List Fill → Bool
  | _, [] => false
  | inventory, f :: fs =>
    decide (A.add inventory (signed A f) < 0) || goesShort (A.add inventory (signed A f)) fs

/-- What a lot's round trip is computed from. -/
structure LotAccount where
  trades : LotTrades
  fees : LotAssetFees
  evidence : LotEvidence

/-- mirrors outcomes.py:511-757 -/
def lotAccount (lot : String) (asOf : Int) (preferred : Option String) : Except Halt LotAccount :=
  if lot ∈ s.quarantinedLots then .error (.incomplete "SOURCE_EVIDENCE_QUARANTINED")
  else
    let links := s.links.rows.filter fun l => decide (l.lotId = lot)
    match links.filter fun l => decide (l.role = .entry) with
    | [entry] => do
      let trades ← (links.insertionSort fun a b => a.intentId ≤ b.intentId).foldlM
        (tradeLink A s asOf) {}
      let fees ← lotFees v s lot asOf trades
      match trades.buys, trades.sells with
      | buy :: _, sell :: _ =>
        if openQuantity A trades fees ≠ 0 then
          .error (.incomplete "NONEMPTY_OWNED_FLAT_UNAVAILABLE")
        else if goesShort A 0 (chronological (trades.buys ++ trades.sells)) then
          .error (.error (.store (.stateConflict
            "owned exit exceeds chronological owned entry")))
        else
          let evidence ← authorize v s asOf preferred entry trades fees buy sell
          return ⟨trades, fees, evidence⟩
      | _, _ => .error (.incomplete "NONEMPTY_OWNED_FLAT_UNAVAILABLE")
    | _ => .error (.incomplete "ENTRY_OWNERSHIP_UNAVAILABLE")

/-! ## Figures -/

/-- `crypto_economics`. -/
structure CryptoEconomics where
  assetFeeQuantity : ℚ
  assetFeeCostBasis : ℚ
  assetFeeAllocationIds : List String
  cashflowPnl : ℚ
deriving DecidableEq

/-- The numbers of a round trip, and what goes with them. -/
structure Figures where
  crypto : Option CryptoEconomics
  entryFillIds : List String
  exitFillIds : List String
  openQuantity : ℚ
  grossPnl : ℚ
  netPnl : Option ℚ
  actualFees : Option ℚ
  costReason : String
  modeledCosts : Option ℚ
  modeledNetPnl : Option ℚ
  entryNotional : ℚ
deriving DecidableEq

/-- `sum((f.price * f.quantity for f in fills), Decimal(0))`. -/
def value (fills : List Fill) : ℚ := A.sum (fills.map fun f => A.mul f.price f.quantity)

/-- `fees`: of each fill its actual fee, if it is known. -/
def actualFees (asOf : Int) (fills : List Fill) : Option (List ℚ) :=
  fills.mapM fun f => actualFee f (costAt s asOf f.fillId .fee)

/-- The part of a crypto lot.
mirrors outcomes.py:733-751 -/
def cryptoEconomics (trades : LotTrades) (fees : LotAssetFees) : CryptoEconomics :=
  let entryBasis := A.div (value A trades.buys) (A.sum (trades.buys.map (·.quantity)))
  { assetFeeQuantity := fees.quantity
    assetFeeCostBasis := A.mul fees.quantity entryBasis
    assetFeeAllocationIds := fees.allocationIds
    cashflowPnl := A.sub (value A trades.sells) (value A trades.buys) }

/-- mirrors outcomes.py:717-811 -/
def figures (asOf : Int) (x : LotAccount) : Figures :=
  let buys := x.trades.buys
  let sells := x.trades.sells
  let crypto := isCrypto buys
  let operational := crypto && decide (s.config.evidenceLane = .brokerPaper)
  let economics := if crypto then some (cryptoEconomics A x.trades x.fees) else none
  let cashflow := A.sub (value A sells) (value A buys)
  let gross := match economics with
    | some e => A.add cashflow e.assetFeeCostBasis
    | none => cashflow
  let actual := if operational then none else (actualFees s asOf (buys ++ sells)).map A.sum
  let modeled := (allocatedCosts s asOf (buys ++ sells)).filter fun c =>
    decide (c.source = .modeled)
  let modeledCosts := if modeled = [] then none else some (A.sum (modeled.filterMap (·.amount)))
  { crypto := economics
    entryFillIds := (buys.map (·.fillId)).insertionSort (· ≤ ·)
    exitFillIds := (sells.map (·.fillId)).insertionSort (· ≤ ·)
    openQuantity := openQuantity A x.trades x.fees
    grossPnl := gross
    netPnl := actual.map fun fees => A.sub gross fees
    actualFees := actual
    costReason :=
      if crypto ∧ actual = none then "CRYPTO_USD_COST_FINALITY_PENDING"
      else if actual = none then "FEE_UNAVAILABLE"
      else "PROVEN_ACTUAL_FEES"
    modeledCosts
    modeledNetPnl := if operational then none else modeledCosts.map fun costs => A.sub gross costs
    entryNotional := A.sum (buys.map fun f => A.mul f.quantity f.price) }

/-! ## The round trip -/

/-- A round trip with its figures. -/
structure Trip extends RoundTrip where
  figures : Figures
deriving DecidableEq

/-- The latest of the revisions on record while its evidence stands, else the next one.
mirrors outcomes.py:511-811 -/
def resolveTrip (lot : String) (asOf : Int) (record : List Trip) : Except Halt Trip := do
  let previous := latest (·.revision) record
  let x ← lotAccount A v (shown s) lot asOf (previous.map (·.reconciliationId))
  let next : Trip :=
    { nextRevision v (shown s) lot asOf (previous.map (·.toRoundTrip)) x.evidence with
      figures := figures A (shown s) asOf x }
  match previous with
  | some t =>
    if t.sourceStateHash = v.stateHash x.evidence.sources x.evidence.fills then return t
    else return next
  | none => return next

end Model

/-! ## One order of fills -/

section Listing

instance : Std.Total Listed := ⟨fun _ _ => le_total _ _⟩

instance : IsTrans Fill Listed := ⟨fun _ _ _ => le_trans⟩

theorem listed_perm {fills fills' : FillTable} (h : fills'.rows.Perm fills.rows) :
    listed fills' = listed fills := by
  refine Table.ext (insertionSort_congr h fun a ha b hb hab hba => ?_)
  have hid : a.fillId = b.fillId := congrArg (fun key => (ofLex key).2) (le_antisymm hab hba)
  exact Table.eq_of_key ha hb hid

variable (A : Arith) (v : OutcomeViews) (s : CoreStore)

/-- **The order in which fills are stored is no matter.** -/
theorem resolveTrip_perm {fills : FillTable} (h : fills.rows.Perm s.fills.rows) (lot : String)
    (asOf : Int) (record : List Trip) :
    resolveTrip A v { s with fills } lot asOf record = resolveTrip A v s lot asOf record := by
  have hshown : shown { s with fills } = shown s := by
    unfold shown; rw [listed_perm h]
  unfold resolveTrip; rw [hshown]

end Listing

/-! ## Exact numbers -/

section Exact

variable (v : OutcomeViews) (s : CoreStore)

theorem lotFees_stock {lot : String} {asOf : Int} {trades : LotTrades} {fees : LotAssetFees}
    (h : lotFees v s lot asOf trades = .ok fees) (hcrypto : isCrypto trades.buys = false) :
    fees = {} := by
  unfold lotFees at h; rw [hcrypto] at h; exact (Except.ok.inj h).symm

end Exact

end Quantbot.L4.Economics
