import Quantbot.L4PaperCore.Revisions
import Quantbot.L4PaperCore.RoundTripFigures

/-!
# Round trips over any run

The revisions of a lot come of resolutions, each over a store as it was then. A resolution
returns the revision on record while the evidence has its hash, so what it returns was computed
by itself or by an earlier one.

* `resolveTrip_ok`: one resolution.
* `history_computed`: every revision on record was computed by a resolution.
* `round_trip_economics`: what resolution returns accounts for the lot's fills, exactly but for
  the rounding of the weighted entry basis, in whatever order they are stored.
* `round_trip_rounded`: that rounding, and what more than 28 digits lose.
-/
namespace Quantbot.L4.Economics

open Core L1 L2 L3 Txn
open Core.Decimal (OnGrid)

/-! ## Resolutions -/

section Runs

variable {A : Arith} {v : OutcomeViews} {lot : String} {s : CoreStore} {asOf : Int}
  {record : List Trip} {t : Trip}

/-- The proof the latest revision rests on. -/
def retained (record : List Trip) : Option String :=
  (latest (·.revision) record).map (·.reconciliationId)

/-- The trip was computed from this account, at this store. -/
structure Computed (A : Arith) (v : OutcomeViews) (lot : String) (s : CoreStore) (asOf : Int)
    (x : LotAccount) (t : Trip) : Prop where
  account : ∃ preferred, lotAccount A v (shown s) lot asOf preferred = .ok x
  hash : t.sourceStateHash = v.stateHash x.evidence.sources x.evidence.fills
  figures : t.figures = figures A (shown s) asOf x

/-- A resolution returns what it computes, or a revision on record with the hash of the same
evidence. -/
theorem resolveTrip_ok (h : resolveTrip A v s lot asOf record = .ok t) :
    ∃ x, lotAccount A v (shown s) lot asOf (retained record) = .ok x ∧
      t.sourceStateHash = v.stateHash x.evidence.sources x.evidence.fills ∧
      (t ∈ record ∨ Computed A v lot s asOf x t) := by
  obtain ⟨x, hx, h⟩ := except_bind_ok.1 h; split at h
  · rename_i previous hprevious; split at h
    · rename_i hhash; cases h; refine ⟨x, hx, hhash, .inl ?_⟩
      rcases latest_spec (·.revision) record with ⟨hnone, _⟩ | ⟨a, ha, hsome, _⟩
      · rw [hnone] at hprevious; cases hprevious
      · rw [hsome] at hprevious; exact Option.some.inj hprevious ▸ ha
    · cases h; exact ⟨x, hx, rfl, .inr ⟨⟨_, hx⟩, rfl, rfl⟩⟩
  · cases h; exact ⟨x, hx, rfl, .inr ⟨⟨_, hx⟩, rfl, rfl⟩⟩

/-- The revisions of a lot, each recorded by a resolution at a store of its own. -/
inductive History (A : Arith) (v : OutcomeViews) (lot : String) : List Trip → Prop
  | nil : History A v lot []
  | resolved {record : List Trip} (s : CoreStore) (asOf : Int) (t : Trip) :
      History A v lot record → resolveTrip A v s lot asOf record = .ok t →
      History A v lot (if t ∈ record then record else record ++ [t])

/-- **Every revision on record was computed.** -/
theorem history_computed (h : History A v lot record) :
    ∀ t ∈ record, ∃ s asOf x, Computed A v lot s asOf x t := by
  induction h with
  | nil => exact fun t ht => nomatch ht
  | resolved s asOf t hhistory hresolve ih =>
    intro t' ht'; split at ht'
    · exact ih t' ht'
    rename_i hnew; rcases List.mem_append.1 ht' with ht' | ht'
    · exact ih t' ht'
    obtain rfl := List.mem_singleton.1 ht'
    obtain ⟨x, _, _, hold | hcomputed⟩ := resolveTrip_ok hresolve
    · exact absurd hold hnew
    · exact ⟨s, asOf, x, hcomputed⟩

variable {preferred : Option String}

theorem authorize_fills {entry : IntentLink} {trades : LotTrades}
    {fees : LotAssetFees} {buy sell : Fill} {e : LotEvidence}
    (h : authorize v s asOf preferred entry trades fees buy sell = .ok e) :
    e.fills.Perm (trades.buys ++ trades.sells) := by
  unfold authorize at h; dsimp only at h; split at h
  · cases h
  split at h
  · split at h
    · cases h
    split at h
    · cases h
    · cases h; exact List.perm_insertionSort _ _
  · cases h

theorem lotAccount_fills {x : LotAccount}
    (h : lotAccount A v s lot asOf preferred = .ok x) : x.evidence.fills.Perm x.fills := by
  unfold lotAccount at h; split at h
  · cases h
  dsimp only at h; split at h
  · obtain ⟨trades, _, h⟩ := except_bind_ok.1 h
    obtain ⟨fees, _, h⟩ := except_bind_ok.1 h; split at h
    · split at h
      · cases h
      split at h
      · cases h
      obtain ⟨evidence, hevidence, h⟩ := except_bind_ok.1 h; cases h
      exact authorize_fills hevidence
    · cases h
  · cases h

end Runs

/-- The account at a store and a cutoff has the figures. -/
def AccountsAt (s : CoreStore) (asOf : Int) (x : LotAccount) (g : Figures) : Prop :=
  ∀ k, Held k x ((actualFees (shown s) asOf x.fills).getD []) →
    Accounts x (isCrypto x.trades.buys && decide ((shown s).config.evidenceLane = .brokerPaper))
      (actualFees (shown s) asOf x.fills) g

theorem accountsAt_of_account {v : OutcomeViews} {lot : String} {s : CoreStore} {asOf : Int}
    {preferred : Option String} {x : LotAccount}
    (h : lotAccount .decimal v (shown s) lot asOf preferred = .ok x) :
    AccountsAt s asOf x (figures .decimal (shown s) asOf x) := by
  have hpassed := lotAccount_passed h; intro k hheld
  exact figures_accounts hpassed hheld

theorem net_known {s : CoreStore} {asOf : Int} {x : LotAccount} (A : Arith)
    (h : (figures A s asOf x).netPnl ≠ none) :
    ∀ f ∈ x.fills, actualFee f (costAt s asOf f.fillId .fee) ≠ none := by
  have hall : ∀ (fills : List Fill) (g : Fill → Option ℚ), fills.mapM g ≠ none →
      ∀ f ∈ fills, g f ≠ none := by
    intro fills g
    induction fills with
    | nil => exact fun _ f hf => nomatch hf
    | cons f fs ih =>
      intro hsome; rw [List.mapM_cons] at hsome
      cases hf : g f with
      | none =>
        rw [hf] at hsome; exact absurd rfl hsome
      | some y =>
        rw [hf] at hsome
        refine List.forall_mem_cons.2 ⟨by rw [hf]; exact Option.some_ne_none y, ih fun hnone => ?_⟩
        rw [hnone] at hsome; exact hsome rfl
  refine hall x.fills _ fun hnone => h ?_
  have hactual : (figures A s asOf x).actualFees = if isCrypto x.trades.buys &&
      decide (s.config.evidenceLane = .brokerPaper) then none
      else (actualFees s asOf x.fills).map A.sum := rfl
  have hfees : actualFees s asOf x.fills = none := hnone
  have hnet : (figures A s asOf x).netPnl = (figures A s asOf x).actualFees.map
      fun fees => A.sub (figures A s asOf x).grossPnl fees := rfl
  rw [hnet, hactual, hfees]; split
  · rfl
  · rfl

/-- **Round-trip economics.** Whatever resolution returns in a run is the same in every order of
the stored fills, and rests on the lot's present account `y`. Its figures were computed from an
account `x` with the same hash: from `y` itself, unless the trip was on record. Both accounts are
exact but for the weighted entry basis, where the amounts have 27 digits, and a net is there only
where every fee is known; where the hash tells evidence apart, they are of the same fills and
sources. -/
theorem round_trip_economics (v : OutcomeViews) (lot : String) (record : List Trip)
    (hhistory : History .decimal v lot record) (s : CoreStore) (asOf : Int) (t : Trip)
    (h : resolveTrip .decimal v s lot asOf record = .ok t) :
    (∀ fills : FillTable, fills.rows.Perm s.fills.rows →
      resolveTrip .decimal v { s with fills } lot asOf record = .ok t) ∧
    ∃ y, lotAccount .decimal v (shown s) lot asOf (retained record) = .ok y ∧
      t.sourceStateHash = v.stateHash y.evidence.sources y.evidence.fills ∧
      AccountsAt s asOf y (figures .decimal (shown s) asOf y) ∧
      ∃ s₀ asOf₀ x, Computed .decimal v lot s₀ asOf₀ x t ∧
        (t ∉ record → s₀ = s ∧ asOf₀ = asOf ∧ x = y) ∧ AccountsAt s₀ asOf₀ x t.figures ∧
        (t.figures.netPnl ≠ none →
          ∀ f ∈ x.fills, actualFee f (costAt (shown s₀) asOf₀ f.fillId .fee) ≠ none) ∧
        ((∀ a b a' b', v.stateHash a b = v.stateHash a' b' → a = a' ∧ b = b') →
          x.evidence.sources = y.evidence.sources ∧ x.fills.Perm y.fills) := by
  refine ⟨fun fills hperm => (resolveTrip_perm .decimal v s hperm lot asOf record).trans h, ?_⟩
  obtain ⟨y, hy, hhash, hreturned⟩ := resolveTrip_ok h
  refine ⟨y, hy, hhash, accountsAt_of_account hy, ?_⟩
  have hcomputed : ∃ s₀ asOf₀ x, Computed .decimal v lot s₀ asOf₀ x t ∧
      (t ∉ record → s₀ = s ∧ asOf₀ = asOf ∧ x = y) := by
    rcases hreturned with hold | hnew
    · obtain ⟨s₀, asOf₀, x, hx⟩ := history_computed hhistory t hold
      exact ⟨s₀, asOf₀, x, hx, fun hnot => absurd hold hnot⟩
    · exact ⟨s, asOf, y, hnew, fun _ => ⟨rfl, rfl, rfl⟩⟩
  obtain ⟨s₀, asOf₀, x, hx, hsame⟩ := hcomputed
  obtain ⟨preferred₀, haccount⟩ := hx.account
  refine ⟨s₀, asOf₀, x, hx, hsame, ?_, fun hnet => ?_, fun hinjective => ?_⟩
  · rw [hx.figures]; exact accountsAt_of_account haccount
  · rw [hx.figures] at hnet; exact net_known .decimal hnet
  · obtain ⟨hsources, hfills⟩ := hinjective _ _ _ _ (hx.hash.symm.trans hhash)
    exact ⟨hsources, (lotAccount_fills haccount).symm.trans (hfills ▸ lotAccount_fills hy)⟩

/-! ## Lots with several fills -/

def lotFill (id order symbol : String) (side : OrderSide) (quantity price : ℚ) (occurredAt : Int)
    (hquantity : 0 < quantity) (hprice : 0 < price) : Fill where
  fillId := id
  brokerOrderId := order
  symbol := symbol
  side := side
  quantity := quantity
  price := price
  occurredAt := occurredAt
  quantity_pos := hquantity
  price_pos := hprice
  fee_nonneg := L1.fee_absent
  fee_valid := L1.fee_unknown

def lotOrder (id symbol : String) (side : OrderSide) (quantity : ℚ) (hquantity : 0 < quantity) :
    BrokerOrder :=
  { partialOrder with
    brokerOrderId := id
    clientOrderId := id
    symbol := symbol
    side := side
    quantity := quantity
    filledQuantity := quantity
    status := "filled"
    quantity_pos := hquantity
    filled_nonneg := hquantity.le
    filled_le := le_refl quantity }

/-- The order closed at ten, with its fills. -/
def lotEvent (order : BrokerOrder) (fills : List Fill) : BrokerEvent where
  recordedAt := 10
  releaseId := "rel"
  evidenceLane := .syntheticTest
  eventId := order.brokerOrderId
  rawDigest := ""
  provider := .explicitSynthetic
  accountId := "PA1"
  endpoint := "orders"
  clientOrderId := order.clientOrderId
  occurredAt := 9
  payload := .order order
  activityComplete := true
  activityFillIds := fills.map (·.fillId)
  activityWatermark := some 9
  occurred_le := by decide
  complete_order _ := (show EventPayload.isOrder (.order order) = true from rfl)
  complete_watermark _ := ⟨_, rfl, by decide⟩

/-- A lot entered by the first order and left by the others, every fee known at twenty. -/
def lotStore (orders : List (BrokerOrder × List Fill)) : CoreStore where
  config := paperConfig
  orderIntents := orders.foldl (fun intents o => intents.insert { entryIntent with
    intentId := o.1.brokerOrderId, clientOrderId := o.1.clientOrderId, side := o.1.side
    state := .filled }) .empty
  brokerOrders := (orders.map (·.1)).foldl UTable.insert .empty
  fills := (orders.flatMap (·.2)).foldl Table.insert .empty
  links := orders.foldl (fun links o => links.insert ⟨o.1.brokerOrderId, "lot", "plan", "obs",
    if o.1.side = .buy then .entry else .exit, "lot"⟩) .empty
  documents := ([⟨"lot", .decision ⟨0, "obs", "SPY", 10⟩⟩,
    ⟨"receipt", .receipt ⟨4, "core", 1, 50, ["plan"]⟩⟩,
    ⟨"proof", .proof { closedProof with
      fillIds := (orders.flatMap (·.2)).map (·.fillId) }⟩] ++
    ((orders.flatMap (·.2)).map fun f => ⟨"cost:" ++ f.fillId, .cost (lateFee f.fillId)⟩) ++
    orders.map fun o => ⟨sourceId outcomeDigest (lotEvent o.1 o.2),
      .source (lotEvent o.1 o.2)⟩ : List DocRow).foldl Table.insert .empty
  certifications := Table.empty.insert ⟨1, "proof"⟩

/-- Views under which a crypto lot pays a fee in the asset. -/
def feeViews (quantity : ℚ) : OutcomeViews :=
  { closedViews with assetFees _ _ _ := .ok { quantity } }

/-- One unit at one and two at two; two are sold at three, and one is a fee. -/
def coinStore : CoreStore :=
  lotStore [
    (lotOrder "B1" "BTC/USD" .buy 3 (by decide), [
      lotFill "F1" "B1" "BTC/USD" .buy 1 1 5 L1.unit_pos L1.unit_pos,
      lotFill "F2" "B1" "BTC/USD" .buy 2 2 6 L1.pair_pos L1.pair_pos]),
    (lotOrder "B2" "BTC/USD" .sell 2 L1.pair_pos, [
      lotFill "F3" "B2" "BTC/USD" .sell 2 3 8 L1.pair_pos (by decide)])]

/-- `10²⁸` units, and two tenths of a unit more sold than bought. -/
def vastStore : CoreStore :=
  lotStore [
    (lotOrder "B1" "SPY" .buy (10 ^ 28) (by decide), [
      lotFill "F1" "B1" "SPY" .buy (10 ^ 28) 1 5 (by decide) L1.unit_pos]),
    (lotOrder "B2" "SPY" .sell (1 / 5) (by decide +kernel), [
      lotFill "F2" "B2" "SPY" .sell (1 / 5) 1 7 (by decide +kernel) L1.unit_pos]),
    (lotOrder "B3" "SPY" .sell (10 ^ 28) (by decide), [
      lotFill "F3" "B3" "SPY" .sell (10 ^ 28) 1 8 (by decide) L1.unit_pos])]

/-- Whole numbers, together below `10²⁷`. -/
def Whole (x : LotAccount) (fees : List ℚ) : Prop :=
  (∀ f ∈ x.fills, f.quantity.den = 1 ∧ (f.price * f.quantity).den = 1) ∧
    x.fees.quantity.den = 1 ∧ (∀ y ∈ fees, y.den = 1) ∧
    x.bought + x.sold + x.spent + x.received + |x.fees.quantity| + (fees.map abs).sum < 10 ^ 27
deriving Decidable

theorem Whole.held {x : LotAccount} {fees : List ℚ} (h : Whole x fees) : Held 0 x fees := by
  obtain ⟨hfills, hfee, hknown, hsmall⟩ := h
  have hgrid : ∀ {q : ℚ}, q.den = 1 → OnGrid 0 q := fun {q} hq =>
    ⟨q.num, by rw [pow_zero, div_one]; exact (Rat.den_eq_one_iff q).1 hq |>.symm⟩
  refine ⟨fun f hf => hgrid (hfills f hf).1, fun f hf => hgrid (hfills f hf).2, hgrid hfee,
    fun y hy => hgrid (hknown y hy), ?_⟩
  rw [pow_zero, mul_one]; exact hsmall

theorem round_trip_economics_coin :
    ∃ t y, resolveTrip .decimal (feeViews 1) coinStore "lot" 25 [] = .ok t ∧
      lotAccount .decimal (feeViews 1) (shown coinStore) "lot" 25 none = .ok y ∧
      y.bought = y.sold + y.fees.quantity ∧
      |t.figures.grossPnl - y.gross| ≤
        (4 * |y.fees.quantity * y.basis| + |y.gross|) / 10 ^ 27 := by
  obtain ⟨t, ht, _⟩ := exists_ok (x := resolveTrip .decimal (feeViews 1) coinStore "lot" 25 [])
    (p := fun _ => True) (by decide +kernel)
  obtain ⟨z, hz, hcrypto, hwhole⟩ := exists_ok
    (x := lotAccount .decimal (feeViews 1) (shown coinStore) "lot" 25 none)
    (p := fun z => isCrypto z.trades.buys = true ∧
      Whole z ((actualFees (shown coinStore) 25 z.fills).getD [])) (by decide +kernel)
  obtain ⟨_, y, hy, _, _, s₀, asOf₀, x, _, hnew, haccounts, _⟩ :=
    round_trip_economics (feeViews 1) "lot" [] .nil coinStore 25 t ht
  obtain ⟨rfl, rfl, rfl⟩ := hnew List.not_mem_nil
  obtain rfl : x = z := Except.ok.inj (hy.symm.trans hz)
  have hheld := haccounts 0 hwhole.held
  obtain ⟨_, _, _, _, _, _, hgross, _⟩ := hheld.crypto hcrypto
  exact ⟨t, x, ht, hz, hheld.conserved, hgross⟩

/-- The basis `5/3` is rounded, so the gross of a crypto lot is not the exact one; and past 28
digits more is sold than was bought. -/
theorem round_trip_rounded :
    (∃ t y, resolveTrip .decimal (feeViews 1) coinStore "lot" 25 [] = .ok t ∧
      lotAccount .decimal (feeViews 1) (shown coinStore) "lot" 25 none = .ok y ∧
      t.figures.grossPnl ≠ y.gross) ∧
    ∃ t y, resolveTrip .decimal (feeViews 0) vastStore "lot" 25 [] = .ok t ∧
      lotAccount .decimal (feeViews 0) (shown vastStore) "lot" 25 none = .ok y ∧
      y.bought + y.fees.quantity < y.sold := by
  obtain ⟨t, ht, hgross⟩ := exists_ok
    (x := resolveTrip .decimal (feeViews 1) coinStore "lot" 25 [])
    (p := fun t => t.figures.grossPnl ≠ 8 / 3) (by decide +kernel)
  obtain ⟨y, hy, hexact⟩ := exists_ok
    (x := lotAccount .decimal (feeViews 1) (shown coinStore) "lot" 25 none)
    (p := fun y => y.gross = 8 / 3) (by decide +kernel)
  obtain ⟨t', ht', _⟩ := exists_ok
    (x := resolveTrip .decimal (feeViews 0) vastStore "lot" 25 []) (p := fun _ => True)
    (by decide +kernel)
  obtain ⟨y', hy', hsold⟩ := exists_ok
    (x := lotAccount .decimal (feeViews 0) (shown vastStore) "lot" 25 none)
    (p := fun y => y.bought + y.fees.quantity < y.sold) (by decide +kernel)
  exact ⟨⟨t, y, ht, hy, hexact ▸ hgross⟩, t', y', ht', hy', hsold⟩

end Quantbot.L4.Economics
