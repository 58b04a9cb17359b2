import Quantbot.L3Risk.Sizing
import Mathlib.Data.Finset.Card
import Mathlib.Data.Finset.Dedup
import Mathlib.Data.Fin.VecNotation

/-!
# Sequential approvals stay within the portfolio limits

Each entry of a sequence is sized with the state of the reservations made so far; an
approved quantity becomes a reservation before the next one. Results:

* `sequential_approvals`: open risk, gross exposure, each symbol's value, new buying power
  and the number of held or reserved symbols stay within their limits when the holdings
  alone do, and the state does not depend on the order of positions and reservations or
  on repetitions.
* `rounded_gross_exceeds`: with amounts of 28 digits it fails by one unit in the last
  place. Decimal quotients are rounded to nearest, so a cap may come out above the exact
  one, and the floor that follows keeps a share too many.

So the theorem is about amounts on a common decimal grid with 27 digits (`Desk.Representable`).
-/
namespace Quantbot.L3.Risk

open Core L1
open Core.Decimal (add sub mul div OnGrid Fits)

/-! ## The sequence -/

/-- What stays the same over a sequence. -/
structure Desk where
  accountSnapshotId : String
  account : Account
  positions : List PositionRiskInput
  config : StrategyConfig
  buyingPowerReserveBps : ℕ

structure Entry where
  reservationId : String
  symbol : String
  referencePrice : ℚ
  stopDistance : ℚ
  drawdown : DrawdownState
  realizedVolatility : Option ℚ := none

/-- The price and the stop distance of an entry are multiples of `10⁻ᵏ`. -/
def Entry.OnTick (k : ℕ) (e : Entry) : Prop :=
  OnGrid k e.referencePrice ∧ OnGrid k e.stopDistance

def entryRequest (st : PortfolioRiskState) (e : Entry) : EntrySizingRequest :=
  ⟨st.targetSymbol, e.referencePrice, e.stopDistance, st, e.drawdown, e.realizedVolatility, rfl⟩

/-- The approved quantity as a reservation.
mirrors runners.py:1898-1906 -/
def reserve (e : Entry) (a : RiskApproval) : Option RiskReservation :=
  if h : 0 < mul a.quantity e.referencePrice ∧ 0 < mul a.quantity e.stopDistance then
    some {
      reservationId := e.reservationId
      symbol := e.symbol
      positionValue := mul a.quantity e.referencePrice
      grossExposure := mul a.quantity e.referencePrice
      openRisk := mul a.quantity e.stopDistance
      reservesPositionSlot := true
      positionValue_pos := h.1
      openRisk_pos := h.2
      positionValue_le := le_refl _ }
  else none

namespace Desk

variable (d : Desk)

def state (symbol : String) (reservations : List RiskReservation) :
    Except RiskError PortfolioRiskState :=
  buildPortfolioRiskState d.accountSnapshotId d.account symbol d.positions reservations
    d.buyingPowerReserveBps

def size (reservations : List RiskReservation) (e : Entry) : Except RiskError RiskSizingResult := do
  let st ← d.state e.symbol reservations
  sizeEntry (entryRequest st e) d.config

/-- One request: a rejected one, or one that raises, leaves the reservations as they are. -/
def approve (reservations : List RiskReservation) (e : Entry) : List RiskReservation :=
  match d.size reservations e with
  | .ok (.approval a) => reservations ++ (reserve e a).toList
  | _ => reservations

def approveAll (entries : List Entry) : List RiskReservation := entries.foldl d.approve []

/-! ## Limits -/

/-- A cap in basis points of the account's equity. -/
def cap (bps : ℕ) : ℚ := d.account.equity * (bps / 10000)

/-- The buying power the reserve leaves. -/
def buyingPowerCap : ℚ := d.account.buyingPower * ((10000 - d.buyingPowerReserveBps : ℕ) : ℚ) / 10000

def openRisk (reservations : List RiskReservation) : ℚ := (openRisks d.positions reservations).sum

def gross (reservations : List RiskReservation) : ℚ := (grossValues d.positions reservations).sum

def symbolValue (symbol : String) (reservations : List RiskReservation) : ℚ :=
  (symbolValues symbol d.positions reservations).sum

def symbolCount (reservations : List RiskReservation) : ℕ :=
  (committedSymbols d.positions reservations).length

/-- Holdings and reservations together are within each limit the holdings alone are within. -/
structure WithinLimits (reservations : List RiskReservation) : Prop where
  openRisk : d.openRisk [] ≤ d.cap d.config.maxOpenRiskBps →
    d.openRisk reservations ≤ d.cap d.config.maxOpenRiskBps
  gross : d.gross [] ≤ d.cap d.config.maxGrossExposureBps →
    d.gross reservations ≤ d.cap d.config.maxGrossExposureBps
  symbolValue : ∀ symbol, d.symbolValue symbol [] ≤ d.cap d.config.maxPositionValueBps →
    d.symbolValue symbol reservations ≤ d.cap d.config.maxPositionValueBps
  buyingPower : 0 ≤ d.buyingPowerCap → (newlyCommitted reservations).sum ≤ d.buyingPowerCap
  symbolCount : d.symbolCount [] ≤ d.config.maxPositions →
    d.symbolCount reservations ≤ d.config.maxPositions

/-- The account's amounts are multiples of `10⁻⁽ᵏ⁺⁶⁾` with 27 digits. -/
structure Representable (k : ℕ) : Prop where
  bps : d.config.maxGrossExposureBps < 10 ^ 27 ∧ d.config.maxOpenRiskBps < 10 ^ 27
  openRiskCap : Fits (k + 6) (d.cap d.config.maxOpenRiskBps)
  grossCap : Fits (k + 6) (d.cap d.config.maxGrossExposureBps)
  valueCap : Fits (k + 6) (d.cap d.config.maxPositionValueBps)
  buyingPower : Fits (k + 6) (d.account.buyingPower * ((10000 - d.buyingPowerReserveBps : ℕ) : ℚ))
  buyingPowerCap : Fits (k + 6) d.buyingPowerCap
  risks : ∀ item ∈ openPositions d.positions, ∀ r, item.openRisk = some r →
    Decimal.OnGrid (k + 6) r
  values : ∀ item ∈ openPositions d.positions, Decimal.OnGrid (k + 6) item.grossValue
  heldRisk : Fits (k + 6) (d.openRisk [])
  heldGross : Fits (k + 6) (d.gross [])

/-! ## Exact amounts -/

theorem fraction_exact {bps : ℕ} (h : bps < 10 ^ 27) : fraction bps = bps / 10000 := by
  refine Decimal.round_fits (k := 4) ⟨⟨bps, by norm_num⟩, ?_⟩
  rw [abs_of_nonneg (by positivity)]
  have hcast : (bps : ℚ) < 10 ^ 27 := by exact_mod_cast h
  calc (bps : ℚ) / 10000 * 10 ^ 4 = bps := by
        rw [show (10 : ℚ) ^ 4 = 10000 by norm_num, div_mul_cancel₀ _ (by norm_num)]
    _ < 10 ^ 27 := hcast

theorem remaining_exact {k bps : ℕ} {equity committed : ℚ} (hbps : bps < 10 ^ 27)
    (hcap : Fits k (equity * (bps / 10000))) (hcommitted : Fits k committed) :
    remaining equity bps committed = max 0 (equity * (bps / 10000) - committed) := by
  unfold remaining
  have hmul : mul equity (fraction bps) = equity * (bps / 10000) := by
    rw [fraction_exact hbps]; exact Decimal.round_fits hcap
  rw [hmul, Decimal.sub_exact hcap hcommitted]

/-- A quantity the rounded cap allows leaves the committed amount within the limit. -/
theorem room {k : ℕ} {limit committed price q : ℚ} (hprice : 0 < price) (hq : 0 < q)
    (hgrid : OnGrid k (q * price)) (hlimit : Fits k limit) (hcommitted : Fits k committed)
    (h0 : 0 ≤ committed) (hpos : 0 < div (max 0 (limit - committed)) price)
    (hle : q ≤ div (max 0 (limit - committed)) price) :
    mul q price = q * price ∧ committed + q * price ≤ limit := by
  have hroom : 0 < limit - committed := by
    by_contra hneg; rw [max_eq_left (not_lt.1 hneg)] at hpos
    unfold Decimal.div at hpos; rw [zero_div, Decimal.round_zero] at hpos
    exact lt_irrefl _ hpos
  rw [max_eq_right hroom.le] at hle
  have hleft : Fits k (limit - committed) :=
    Fits.of_le (hlimit.1.sub hcommitted.1) hlimit hroom.le (by linarith)
  have hbound : q * price ≤ limit - committed :=
    Decimal.mul_le_of_le_div hprice hroom.le hle hgrid hleft
  refine ⟨Decimal.round_fits (Fits.of_le hgrid hleft (by positivity) hbound), by linarith⟩

theorem grossValue_nonneg (item : PositionRiskInput) : 0 ≤ item.grossValue :=
  Decimal.round_nonneg (abs_nonneg _)

theorem openRisk_nonneg {item : PositionRiskInput} {r : ℚ} (h : item.openRisk = some r) :
    0 ≤ r := by
  unfold PositionRiskInput.openRisk at h; split at h
  · cases h
  rename_i hlong; obtain ⟨stop, -, rfl⟩ := Option.map_eq_some_iff.1 h
  exact Decimal.round_nonneg (mul_nonneg (not_lt.1 hlong) (le_max_right _ _))

/-! ## The invariant -/

/-- A reservation of the sequence. -/
structure Made (k : ℕ) (r : RiskReservation) : Prop where
  gross : r.grossExposure = r.positionValue
  slot : r.reservesPositionSlot = true
  new : r.buyingPowerAlreadyReserved = false
  value : Decimal.OnGrid (k + 6) r.positionValue
  risk : Decimal.OnGrid (k + 6) r.openRisk

/-- What each approval keeps. -/
structure Kept (k : ℕ) (rs : List RiskReservation) : Prop where
  ids : (rs.map (·.reservationId)).Nodup
  made : ∀ r ∈ rs, Made k r
  openRisk : rs = [] ∨ d.openRisk rs ≤ d.cap d.config.maxOpenRiskBps
  gross : rs = [] ∨ d.gross rs ≤ d.cap d.config.maxGrossExposureBps
  symbolValue : ∀ symbol, (∀ r ∈ rs, r.symbol ≠ symbol) ∨
    d.symbolValue symbol rs ≤ d.cap d.config.maxPositionValueBps
  buyingPower : rs = [] ∨ (newlyCommitted rs).sum ≤ d.buyingPowerCap
  symbolCount : d.symbolCount rs ≤ max (d.symbolCount []) d.config.maxPositions

variable {d} {k : ℕ} {rs : List RiskReservation}

theorem mem_openRisks (hd : d.Representable k) (hk : ∀ r ∈ rs, Made k r) :
    ∀ x ∈ openRisks d.positions rs, 0 ≤ x ∧ Decimal.OnGrid (k + 6) x := by
  intro x hx; rcases List.mem_append.1 hx with hx | hx
  · obtain ⟨item, hitem, hr⟩ := List.mem_filterMap.1 hx
    exact ⟨openRisk_nonneg hr, hd.risks item hitem x hr⟩
  · obtain ⟨r, hr, rfl⟩ := List.mem_map.1 hx
    exact ⟨r.openRisk_pos.le, (hk r hr).risk⟩

theorem mem_grossValues (hd : d.Representable k) (hk : ∀ r ∈ rs, Made k r) :
    ∀ x ∈ grossValues d.positions rs, 0 ≤ x ∧ Decimal.OnGrid (k + 6) x := by
  intro x hx; rcases List.mem_append.1 hx with hx | hx
  · obtain ⟨item, hitem, rfl⟩ := List.mem_map.1 hx
    exact ⟨grossValue_nonneg item, hd.values item hitem⟩
  · obtain ⟨r, hr, rfl⟩ := List.mem_map.1 hx; rw [(hk r hr).gross]
    exact ⟨r.positionValue_pos.le, (hk r hr).value⟩

theorem symbolValues_sublist (symbol : String) (hk : ∀ r ∈ rs, Made k r) :
    (symbolValues symbol d.positions rs).Sublist (grossValues d.positions rs) := by
  refine List.Sublist.append (List.filter_sublist.map _) ?_
  have hsame : rs.map (·.grossExposure) = rs.map (·.positionValue) :=
    List.map_congr_left fun r hr => (hk r hr).gross
  rw [hsame]; exact List.filter_sublist.map _

theorem newlyCommitted_sublist (hk : ∀ r ∈ rs, Made k r) :
    (newlyCommitted rs).Sublist (grossValues d.positions rs) := by
  have hsame : rs.map (·.grossExposure) = rs.map (·.positionValue) :=
    List.map_congr_left fun r hr => (hk r hr).gross
  unfold grossValues newlyCommitted; rw [hsame]
  exact (List.filter_sublist.map _).trans (List.sublist_append_right _ _)

theorem sublist_fits {l l' : List ℚ} (h : l.Sublist l')
    (hl : ∀ x ∈ l', 0 ≤ x ∧ Decimal.OnGrid (k + 6) x) (hsum : Fits (k + 6) l'.sum) :
    Fits (k + 6) l.sum ∧ l.foldl add 0 = l.sum ∧ 0 ≤ l.sum := by
  have hl' : ∀ x ∈ l, 0 ≤ x ∧ Decimal.OnGrid (k + 6) x := fun x hx => hl x (h.subset hx)
  have h0 : 0 ≤ l.sum := List.sum_nonneg fun x hx => (hl' x hx).1
  have hfits : Fits (k + 6) l.sum := by
    refine Fits.of_le (Decimal.OnGrid.sum fun x hx => (hl' x hx).2) hsum h0 ?_
    exact h.sum_le_sum fun x hx => (hl x hx).1
  refine ⟨hfits, ?_, h0⟩
  have hexact := Decimal.foldl_add_exact (k := k + 6) (l := l) (a := 0) le_rfl (.zero _) hl'
    (by rwa [zero_add])
  rwa [zero_add] at hexact

section

variable (hd : d.Representable k)
include hd

theorem Kept.gross_fits (hk : d.Kept k rs) : Fits (k + 6) (d.gross rs) := by
  rcases hk.gross with rfl | h
  · exact hd.heldGross
  refine Fits.of_le ?_ hd.grossCap ?_ h
  · exact Decimal.OnGrid.sum fun x hx => (mem_grossValues hd hk.made x hx).2
  · exact List.sum_nonneg fun x hx => (mem_grossValues hd hk.made x hx).1

theorem Kept.openRisk_fits (hk : d.Kept k rs) : Fits (k + 6) (d.openRisk rs) := by
  rcases hk.openRisk with rfl | h
  · exact hd.heldRisk
  refine Fits.of_le ?_ hd.openRiskCap ?_ h
  · exact Decimal.OnGrid.sum fun x hx => (mem_openRisks hd hk.made x hx).2
  · exact List.sum_nonneg fun x hx => (mem_openRisks hd hk.made x hx).1

/-! ## One approval -/

theorem buyingPowerBase_exact :
    buyingPowerBase d.account d.buyingPowerReserveBps = d.buyingPowerCap := by
  unfold buyingPowerBase
  have hmul : mul d.account.buyingPower ((10000 - d.buyingPowerReserveBps : ℕ) : ℚ)
      = d.account.buyingPower * ((10000 - d.buyingPowerReserveBps : ℕ) : ℚ) :=
    Decimal.round_fits hd.buyingPower
  rw [hmul]; exact Decimal.round_fits hd.buyingPowerCap

/-- What the approved quantity leaves: the exact amounts, and room under every limit. -/
structure Room (d : Desk) (k : ℕ) (rs : List RiskReservation) (e : Entry) (a : RiskApproval) :
    Prop where
  value : mul a.quantity e.referencePrice = a.quantity * e.referencePrice
  risk : mul a.quantity e.stopDistance = a.quantity * e.stopDistance
  valueGrid : Decimal.OnGrid (k + 6) (a.quantity * e.referencePrice)
  riskGrid : Decimal.OnGrid (k + 6) (a.quantity * e.stopDistance)
  openRisk : d.openRisk rs + a.quantity * e.stopDistance ≤ d.cap d.config.maxOpenRiskBps
  gross : d.gross rs + a.quantity * e.referencePrice ≤ d.cap d.config.maxGrossExposureBps
  symbolValue : d.symbolValue e.symbol rs + a.quantity * e.referencePrice
    ≤ d.cap d.config.maxPositionValueBps
  buyingPower : (newlyCommitted rs).sum + a.quantity * e.referencePrice ≤ d.buyingPowerCap
  slot : e.symbol ∉ committedSymbols d.positions rs → d.symbolCount rs < d.config.maxPositions

theorem size_room (hk : d.Kept k rs) {e : Entry} (he : e.OnTick k)
    {a : RiskApproval} (h : d.size rs e = .ok (.approval a)) : Room d k rs e a := by
  obtain ⟨st, hst, hsize⟩ := Txn.except_bind_ok.1 h
  obtain ⟨-, -, unique, hunique, rfl⟩ := build_ok.1 hst
  rw [deduplicate_nodup hk.ids] at hunique; cases hunique
  obtain ⟨hvalid, hfree, hgrid, hone, volatility, hcaps⟩ := sizeEntry_approval hsize
  obtain ⟨-, hprice, hstop⟩ := valid_prices hvalid
  change 0 < e.referencePrice at hprice
  -- the quantity is positive
  have hq : 0 < a.quantity := by
    by_contra hneg; have hnotional := hone (by linarith)
    have hprod : 0 ≤ -(a.quantity * e.referencePrice) := by nlinarith
    have hround := Decimal.round_nonneg hprod; rw [Decimal.round_neg] at hround
    change 1 ≤ Decimal.round (a.quantity * e.referencePrice) at hnotional
    linarith
  have hvalueGrid : Decimal.OnGrid (k + 6) (a.quantity * e.referencePrice) := by
    rw [Nat.add_comm]; exact hgrid.mul he.1
  have hriskGrid : Decimal.OnGrid (k + 6) (a.quantity * e.stopDistance) := by
    rw [Nat.add_comm]; exact hgrid.mul he.2
  have hall := mem_grossValues hd hk.made
  have hgrossFits : Fits (k + 6) (grossValues d.positions rs).sum := hk.gross_fits hd
  obtain ⟨hriskSum, hriskExact, hrisk0⟩ :=
    sublist_fits (List.Sublist.refl _) (mem_openRisks hd hk.made) (hk.openRisk_fits hd)
  obtain ⟨-, hgrossExact, hgross0⟩ := sublist_fits (List.Sublist.refl _) hall hgrossFits
  obtain ⟨hvalueSum, hvalueExact, hvalue0⟩ :=
    sublist_fits (symbolValues_sublist e.symbol hk.made) hall hgrossFits
  obtain ⟨hnewSum, hnewExact, hnew0⟩ := sublist_fits (newlyCommitted_sublist hk.made) hall hgrossFits
  have hposition : d.config.maxPositionValueBps < 10 ^ 27 :=
    lt_of_le_of_lt d.config.maxPositionValueBps_le hd.bps.1
  -- each cap of the approval, with the committed amount exact
  have hopen := hcaps.portfolioOpenRisk; have hvalue := hcaps.positionValue
  have hgross := hcaps.grossExposure; have hbuying := hcaps.buyingPower
  change 0 < div (remaining d.account.equity d.config.maxOpenRiskBps
      ((openRisks d.positions rs).foldl add 0)) e.stopDistance ∧ a.quantity ≤ div (remaining
      d.account.equity d.config.maxOpenRiskBps ((openRisks d.positions rs).foldl add 0))
      e.stopDistance at hopen
  change 0 < div (remaining d.account.equity d.config.maxPositionValueBps
      ((symbolValues e.symbol d.positions rs).foldl add 0)) e.referencePrice ∧ a.quantity ≤ div
      (remaining d.account.equity d.config.maxPositionValueBps
      ((symbolValues e.symbol d.positions rs).foldl add 0)) e.referencePrice at hvalue
  change 0 < div (remaining d.account.equity d.config.maxGrossExposureBps
      ((grossValues d.positions rs).foldl add 0)) e.referencePrice ∧ a.quantity ≤ div (remaining
      d.account.equity d.config.maxGrossExposureBps ((grossValues d.positions rs).foldl add 0))
      e.referencePrice at hgross
  change 0 < div (max 0 (max 0 (sub (buyingPowerBase d.account d.buyingPowerReserveBps)
      ((newlyCommitted rs).foldl add 0)))) e.referencePrice ∧ a.quantity ≤ div (max 0 (max 0
      (sub (buyingPowerBase d.account d.buyingPowerReserveBps)
      ((newlyCommitted rs).foldl add 0)))) e.referencePrice at hbuying
  rw [hriskExact, remaining_exact hd.bps.2 hd.openRiskCap hriskSum] at hopen
  rw [hvalueExact, remaining_exact hposition hd.valueCap hvalueSum] at hvalue
  rw [hgrossExact, remaining_exact hd.bps.1 hd.grossCap hgrossFits] at hgross
  rw [hnewExact, buyingPowerBase_exact hd, Decimal.sub_exact hd.buyingPowerCap hnewSum,
    max_eq_right (le_max_left _ _)] at hbuying
  obtain ⟨hriskMul, hopen'⟩ :=
    room hstop hq hriskGrid hd.openRiskCap hriskSum hrisk0 hopen.1 hopen.2
  obtain ⟨hvalueMul, hvalue'⟩ :=
    room hprice hq hvalueGrid hd.valueCap hvalueSum hvalue0 hvalue.1 hvalue.2
  obtain ⟨-, hgross'⟩ := room hprice hq hvalueGrid hd.grossCap hgrossFits hgross0 hgross.1 hgross.2
  obtain ⟨-, hbuying'⟩ :=
    room hprice hq hvalueGrid hd.buyingPowerCap hnewSum hnew0 hbuying.1 hbuying.2
  exact {
    value := hvalueMul
    risk := hriskMul
    valueGrid := hvalueGrid
    riskGrid := hriskGrid
    openRisk := hopen'
    gross := hgross'
    symbolValue := hvalue'
    buyingPower := hbuying'
    slot := fun hnew => hfree (decide_eq_true hnew) }

end

theorem symbolCount_push (d : Desk) (rs : List RiskReservation) {r : RiskReservation}
    (hr : r.reservesPositionSlot = true) :
    d.symbolCount (rs ++ [r]) = if r.symbol ∈ committedSymbols d.positions rs then d.symbolCount rs
      else d.symbolCount rs + 1 := by
  unfold symbolCount committedSymbols
  have hslots : ((rs ++ [r]).filter (·.reservesPositionSlot)).map (·.symbol)
      = (rs.filter (·.reservesPositionSlot)).map (·.symbol) ++ [r.symbol] := by
    simp [List.filter_append, hr]
  rw [hslots, ← List.append_assoc]
  rw [← List.card_toFinset, ← List.card_toFinset, List.toFinset_append]
  have hone : [r.symbol].toFinset = {r.symbol} := by simp
  rw [hone, Finset.union_comm, ← Finset.insert_eq]; split
  · rename_i hin
    rw [Finset.insert_eq_of_mem (List.mem_toFinset.2 (List.mem_dedup.1 hin))]
  · rename_i hout
    rw [Finset.card_insert_of_notMem fun h => hout (List.mem_dedup.2 (List.mem_toFinset.1 h))]

theorem push_kept (hk : d.Kept k rs) {e : Entry} {a : RiskApproval} (hroom : Room d k rs e a)
    (hid : e.reservationId ∉ rs.map (·.reservationId)) {r : RiskReservation}
    (hr : reserve e a = some r) : d.Kept k (rs ++ [r]) := by
  unfold reserve at hr; split at hr
  · rename_i hpos; have hr' := (Option.some.inj hr).symm
    have hvalue : r.positionValue = a.quantity * e.referencePrice := by rw [hr', ← hroom.value]
    have hgross : r.grossExposure = a.quantity * e.referencePrice := by rw [hr', ← hroom.value]
    have hrisk : r.openRisk = a.quantity * e.stopDistance := by rw [hr', ← hroom.risk]
    have hsymbol : r.symbol = e.symbol := by rw [hr']
    have hslot : r.reservesPositionSlot = true := by rw [hr']
    have hnew : r.buyingPowerAlreadyReserved = false := by rw [hr']
    have hrid : r.reservationId = e.reservationId := by rw [hr']
    constructor
    · rw [List.map_append, List.nodup_append]; refine ⟨hk.ids, by simp, ?_⟩
      intro x hx y hy hxy
      have hy' : y = e.reservationId := by simpa [hrid] using hy
      exact hid (hy' ▸ hxy ▸ hx)
    · intro x hx; rcases List.mem_append.1 hx with hx | hx
      · exact hk.made x hx
      rw [List.mem_singleton.1 hx]
      exact ⟨hgross.trans hvalue.symm, hslot, hnew, hvalue ▸ hroom.valueGrid,
        hrisk ▸ hroom.riskGrid⟩
    · right
      have hsum : d.openRisk (rs ++ [r]) = d.openRisk rs + r.openRisk := by
        simp [Desk.openRisk, openRisks, add_assoc]
      rw [hsum, hrisk]; exact hroom.openRisk
    · right
      have hsum : d.gross (rs ++ [r]) = d.gross rs + r.grossExposure := by
        simp [Desk.gross, grossValues, add_assoc]
      rw [hsum, hgross]; exact hroom.gross
    · intro symbol; by_cases hsame : e.symbol = symbol
      · right
        have hsum : d.symbolValue symbol (rs ++ [r]) = d.symbolValue symbol rs + r.positionValue := by
          simp [Desk.symbolValue, symbolValues, List.filter_append, hsymbol, hsame, add_assoc]
        rw [hsum, hvalue, ← hsame]; exact hroom.symbolValue
      · have hsum : d.symbolValue symbol (rs ++ [r]) = d.symbolValue symbol rs := by
          simp [Desk.symbolValue, symbolValues, List.filter_append, hsymbol, hsame]
        rcases hk.symbolValue symbol with hnone | hle
        · left; intro x hx; rcases List.mem_append.1 hx with hx | hx
          · exact hnone x hx
          · rw [List.mem_singleton.1 hx, hsymbol]; exact hsame
        · right; rw [hsum]; exact hle
    · right
      have hsum : (newlyCommitted (rs ++ [r])).sum = (newlyCommitted rs).sum + r.positionValue := by
        simp [newlyCommitted, List.filter_append, hnew]
      rw [hsum, hvalue]; exact hroom.buyingPower
    · rw [symbolCount_push d rs hslot, hsymbol]; split
      · exact hk.symbolCount
      rename_i hout; have hlt := hroom.slot hout; omega
  · cases hr

theorem approve_kept (hd : d.Representable k) (hk : d.Kept k rs) {e : Entry} (he : e.OnTick k)
    (hid : e.reservationId ∉ rs.map (·.reservationId)) : d.Kept k (d.approve rs e) := by
  unfold approve; split
  · rename_i a ha
    cases hr : reserve e a with
    | none => simpa using hk
    | some r => exact push_kept hk (size_room hd hk he ha) hid hr
  · exact hk

theorem approve_ids (rs : List RiskReservation) (e : Entry) :
    ∀ id ∈ (d.approve rs e).map (·.reservationId), id ∈ rs.map (·.reservationId) ∨
      id = e.reservationId := by
  unfold approve; split
  · rename_i a _; intro id hid; rw [List.map_append] at hid
    rcases List.mem_append.1 hid with hid | hid
    · exact .inl hid
    right; unfold reserve at hid; split at hid
    · simpa using hid
    · simp at hid
  · exact fun id hid => .inl hid

theorem foldl_kept (hd : d.Representable k) {entries : List Entry} (he : ∀ e ∈ entries, e.OnTick k)
    (hids : (entries.map (·.reservationId)).Nodup) (hk : d.Kept k rs)
    (hfresh : ∀ e ∈ entries, e.reservationId ∉ rs.map (·.reservationId)) :
    d.Kept k (entries.foldl d.approve rs) := by
  induction entries generalizing rs with
  | nil => exact hk
  | cons e rest ih =>
    rw [List.map_cons, List.nodup_cons] at hids
    refine ih (fun x hx => he x (List.mem_cons_of_mem _ hx)) hids.2
      (approve_kept hd hk (he e List.mem_cons_self) (hfresh e List.mem_cons_self)) ?_
    intro x hx hin; rcases approve_ids rs e _ hin with hin | heq
    · exact hfresh x (List.mem_cons_of_mem _ hx) hin
    · exact hids.1 (heq ▸ List.mem_map_of_mem hx)

theorem kept_nil (d : Desk) (k : ℕ) : d.Kept k [] where
  ids := List.nodup_nil
  made := fun r hr => by cases hr
  openRisk := .inl rfl
  gross := .inl rfl
  symbolValue := fun _ => .inl fun r hr => by cases hr
  buyingPower := .inl rfl
  symbolCount := le_max_left _ _

theorem Kept.within (hk : d.Kept k rs) : d.WithinLimits rs := by
  constructor
  · intro h; rcases hk.openRisk with rfl | hle
    · exact h
    · exact hle
  · intro h; rcases hk.gross with rfl | hle
    · exact h
    · exact hle
  · intro symbol h; rcases hk.symbolValue symbol with hnone | hle
    · have hnil : rs.filter (·.symbol = symbol) = [] := by
        rw [List.filter_eq_nil_iff]; intro r hr; simpa using hnone r hr
      have hsame : d.symbolValue symbol rs = d.symbolValue symbol [] := by
        simp only [Desk.symbolValue, symbolValues, hnil, List.filter_nil]
      rw [hsame]; exact h
    · exact hle
  · intro h; rcases hk.buyingPower with rfl | hle
    · simpa [newlyCommitted] using h
    · exact hle
  · intro h; have hcount := hk.symbolCount; rwa [max_eq_right h] at hcount

/-! ## Order and repetition -/

/-- The distinct reservations and the holdings have exact sums. -/
structure Summable (d : Desk) (k : ℕ) (reservations : List RiskReservation) : Prop where
  grid : ∀ r ∈ reservations, Decimal.OnGrid (k + 6) r.grossExposure ∧
    Decimal.OnGrid (k + 6) r.positionValue ∧ Decimal.OnGrid (k + 6) r.openRisk
  gross : Fits (k + 6) (d.gross reservations.dedup)
  openRisk : Fits (k + 6) (d.openRisk reservations.dedup)

theorem foldl_perm {l l' : List ℚ} (h : l.Perm l') {top : ℚ}
    (hl : ∀ x ∈ l, 0 ≤ x ∧ Decimal.OnGrid (k + 6) x) (htop : Fits (k + 6) top)
    (hle : l.sum ≤ top) : l.foldl add 0 = l'.foldl add 0 := by
  have hsum : Fits (k + 6) (0 + l.sum) := by
    rw [zero_add]
    exact Fits.of_le (Decimal.OnGrid.sum fun x hx => (hl x hx).2) htop
      (List.sum_nonneg fun x hx => (hl x hx).1) hle
  rw [Decimal.foldl_add_exact le_rfl (.zero _) hl hsum,
    Decimal.foldl_add_exact le_rfl (.zero _) (fun x hx => hl x (h.mem_iff.2 hx))
      (by rwa [← h.sum_eq]), h.sum_eq]

variable {positions' : List PositionRiskInput}

theorem stateOf_perm (hd : d.Representable k)
    {unique unique' : List RiskReservation} (hpositions : d.positions.Perm positions')
    (hunique : unique.Perm unique') (hgrid : ∀ r ∈ unique, Decimal.OnGrid (k + 6) r.grossExposure ∧
      Decimal.OnGrid (k + 6) r.positionValue ∧ Decimal.OnGrid (k + 6) r.openRisk)
    (hgross : Fits (k + 6) (d.gross unique)) (hrisk : Fits (k + 6) (d.openRisk unique))
    (symbol : String) :
    stateOf d.accountSnapshotId d.account symbol d.positions unique d.buyingPowerReserveBps
      = stateOf d.accountSnapshotId d.account symbol positions' unique'
        d.buyingPowerReserveBps := by
  have hopen : (openPositions d.positions).Perm (openPositions positions') := hpositions.filter _
  have hslots : ((unique.filter (·.reservesPositionSlot)).map (·.symbol)).Perm
      ((unique'.filter (·.reservesPositionSlot)).map (·.symbol)) := (hunique.filter _).map _
  have hcommitted : (committedSymbols d.positions unique).Perm (committedSymbols positions' unique') :=
    ((hopen.map _).append hslots).dedup
  have hvalues : (unique.map (·.positionValue)).sum ≤ (unique.map (·.grossExposure)).sum :=
    List.sum_le_sum fun r _ => r.positionValue_le
  have hvalue0 : ∀ x ∈ unique.map (·.positionValue), 0 ≤ x := by
    intro x hx; obtain ⟨r, -, rfl⟩ := List.mem_map.1 hx
    exact r.positionValue_pos.le
  have hheld0 : ∀ x ∈ (openPositions d.positions).map (·.grossValue), 0 ≤ x := by
    intro x hx; obtain ⟨item, -, rfl⟩ := List.mem_map.1 hx
    exact grossValue_nonneg item
  have hgrossSum : (grossValues d.positions unique).sum
      = ((openPositions d.positions).map (·.grossValue)).sum
        + (unique.map (·.grossExposure)).sum := List.sum_append
  have hnew : (newlyCommitted unique).foldl add 0 = (newlyCommitted unique').foldl add 0 := by
    refine foldl_perm ((hunique.filter _).map _) ?_ hgross ?_
    · intro x hx; obtain ⟨r, hr, rfl⟩ := List.mem_map.1 hx
      exact ⟨r.positionValue_pos.le, (hgrid r (List.mem_of_mem_filter hr)).2.1⟩
    · have hsub : (newlyCommitted unique).sum ≤ (unique.map (·.positionValue)).sum :=
        (List.filter_sublist.map _).sum_le_sum hvalue0
      have h0 := List.sum_nonneg hheld0
      show (newlyCommitted unique).sum ≤ (grossValues d.positions unique).sum
      linarith
  have hrisks : (openRisks d.positions unique).foldl add 0
      = (openRisks positions' unique').foldl add 0 := by
    refine foldl_perm ((hopen.filterMap _).append (hunique.map _)) ?_ hrisk le_rfl
    intro x hx; rcases List.mem_append.1 hx with hx | hx
    · obtain ⟨item, hitem, hr⟩ := List.mem_filterMap.1 hx
      exact ⟨openRisk_nonneg hr, hd.risks item hitem x hr⟩
    · obtain ⟨r, hr, rfl⟩ := List.mem_map.1 hx
      exact ⟨r.openRisk_pos.le, (hgrid r hr).2.2⟩
  have hgrosses : (grossValues d.positions unique).foldl add 0
      = (grossValues positions' unique').foldl add 0 := by
    refine foldl_perm ((hopen.map _).append (hunique.map _)) ?_ hgross le_rfl
    intro x hx; rcases List.mem_append.1 hx with hx | hx
    · obtain ⟨item, hitem, rfl⟩ := List.mem_map.1 hx
      exact ⟨grossValue_nonneg item, hd.values item hitem⟩
    · obtain ⟨r, hr, rfl⟩ := List.mem_map.1 hx
      exact ⟨r.positionValue_pos.le.trans r.positionValue_le, (hgrid r hr).1⟩
  have hsymbol : (symbolValues symbol d.positions unique).foldl add 0
      = (symbolValues symbol positions' unique').foldl add 0 := by
    refine foldl_perm (((hopen.filter _).map _).append ((hunique.filter _).map _)) ?_ hgross ?_
    · intro x hx; rcases List.mem_append.1 hx with hx | hx
      · obtain ⟨item, hitem, rfl⟩ := List.mem_map.1 hx
        exact ⟨grossValue_nonneg item, hd.values item (List.mem_of_mem_filter hitem)⟩
      · obtain ⟨r, hr, rfl⟩ := List.mem_map.1 hx
        exact ⟨r.positionValue_pos.le, (hgrid r (List.mem_of_mem_filter hr)).2.1⟩
    · have hsubHeld : (((openPositions d.positions).filter (·.position.symbol = symbol)).map
          (·.grossValue)).sum ≤ ((openPositions d.positions).map (·.grossValue)).sum :=
        (List.filter_sublist.map _).sum_le_sum hheld0
      have hsubValues : ((unique.filter (·.symbol = symbol)).map (·.positionValue)).sum
          ≤ (unique.map (·.positionValue)).sum := (List.filter_sublist.map _).sum_le_sum hvalue0
      show (symbolValues symbol d.positions unique).sum ≤ (grossValues d.positions unique).sum
      unfold symbolValues; rw [List.sum_append]; linarith
  have hreasons : stateReasons d.positions = stateReasons positions' := by
    unfold stateReasons; rw [hopen.any_eq, hopen.any_eq]
  unfold stateOf
  rw [hnew, hrisks, hgrosses, hsymbol, hreasons, hcommitted.length_eq]; congr 1
  exact decide_eq_decide.2 (not_congr hcommitted.mem_iff)

/-- Another order of positions and reservations, or a reservation given again, builds the
same state. -/
theorem state_same (hd : d.Representable k) {rs' : List RiskReservation} (hrs : d.Summable k rs)
    (hpositions : d.positions.Perm positions') (hmem : ∀ r, r ∈ rs ↔ r ∈ rs') (symbol : String) :
    (({ d with positions := positions' } : Desk).state symbol rs').toOption =
      (d.state symbol rs).toOption := by
  have hsome : ∀ st, (d.state symbol rs).toOption = some st ↔
      (({ d with positions := positions' } : Desk).state symbol rs').toOption = some st := by
    intro st
    have hiff : ∀ (x : Except RiskError PortfolioRiskState), x.toOption = some st ↔ x = .ok st := by
      intro x
      cases x <;> simp [Except.toOption]
    rw [hiff, hiff]
    unfold state
    rw [build_ok, build_ok]
    refine and_congr Iff.rfl (and_congr (hpositions.map _).nodup_iff ?_)
    -- both deduplications succeed on the same members, or neither does
    have hcons : Consistent rs ↔ Consistent rs' := by
      unfold Consistent
      simp only [hmem]
    have huniq : ∀ u u', deduplicateReservations rs = .ok u →
        deduplicateReservations rs' = .ok u' →
        stateOf d.accountSnapshotId d.account symbol d.positions u d.buyingPowerReserveBps
          = stateOf d.accountSnapshotId d.account symbol positions' u'
            d.buyingPowerReserveBps := by
      intro u u' hu hu'
      obtain ⟨hids, hin⟩ := deduplicate_ok hu
      obtain ⟨hids', hin'⟩ := deduplicate_ok hu'
      have hperm : u.Perm u' := (List.perm_ext_iff_of_nodup hids.of_map hids'.of_map).2
        fun r => by rw [hin, hin', hmem]
      have hdedup : u.Perm rs.dedup := (List.perm_ext_iff_of_nodup hids.of_map rs.nodup_dedup).2
        fun r => by rw [hin, List.mem_dedup]
      refine stateOf_perm hd hpositions hperm (fun r hr => hrs.grid r ((hin r).1 hr)) ?_ ?_ symbol
      · have hsum : d.gross u = d.gross rs.dedup :=
          ((List.Perm.refl _).append (hdedup.map _)).sum_eq
        rw [hsum]
        exact hrs.gross
      · have hsum : d.openRisk u = d.openRisk rs.dedup :=
          ((List.Perm.refl _).append (hdedup.map _)).sum_eq
        rw [hsum]
        exact hrs.openRisk
    constructor
    · rintro ⟨u, hu, rfl⟩
      obtain ⟨u', hu'⟩ := deduplicate_total (hcons.1 (deduplicate_consistent hu))
      exact ⟨u', hu', huniq u u' hu hu'⟩
    · rintro ⟨u', hu', rfl⟩
      obtain ⟨u, hu⟩ := deduplicate_total (hcons.2 (deduplicate_consistent hu'))
      exact ⟨u, hu, (huniq u u' hu hu').symm⟩
  exact (Option.ext fun st => hsome st).symm

end Desk

/-- **Sequential approvals**: for amounts on a common decimal grid with 27 digits, the
reservations of any sequence of entries under ids of their own stay within every limit the
holdings alone are within, and the state is blind to order and repetition. -/
theorem sequential_approvals {d : Desk} {k : ℕ} (hd : d.Representable k) :
    (∀ entries : List Entry, (∀ e ∈ entries, e.OnTick k) →
      (entries.map (·.reservationId)).Nodup → d.WithinLimits (d.approveAll entries)) ∧
    ∀ (rs rs' : List RiskReservation) (positions' : List PositionRiskInput) (symbol : String),
      d.Summable k rs → d.positions.Perm positions' → (∀ r, r ∈ rs ↔ r ∈ rs') →
      (({ d with positions := positions' } : Desk).state symbol rs').toOption
        = (d.state symbol rs).toOption :=
  ⟨fun _ he hids => (Desk.foldl_kept hd he hids (Desk.kept_nil d k) (by simp)).within,
    fun _ _ _ symbol hrs hpositions hmem => Desk.state_same hd hrs hpositions hmem symbol⟩

/-! ### Two desks -/

def noDrawdown : DrawdownState := ⟨100, 100, 0, 1, false, false, by norm_num, by norm_num⟩

/-- Whole shares, four positions, target weights of `value` basis points. -/
def weightConfig (value : ℕ) (h : 0 < value ∧ value ≤ 10000) : StrategyConfig :=
  { singleFund with
    symbols := ["SPY", "QQQ"]
    rosterSize := 2
    momentumLong := 126
    entryPeriod := 20
    exitPeriod := 10
    riskPerTradeBps := 100
    maxOpenRiskBps := 600
    maxPositionValueBps := value
    maxPositions := 4
    allowPyramiding := true
    targetWeightSizing := true
    symbols_ne := by decide
    symbols_nodup := by decide
    rosterSize_pos := Nat.two_pos
    rosterSize_le_symbols := by decide
    rosterSize_le_positions := by decide
    momentumSkip_lt := by decide
    exitPeriod_pos := by decide
    exitPeriod_lt := by decide
    riskPerTradeBps_pos := Nat.succ_pos 99
    riskPerTradeBps_le := by decide
    maxPositionValueBps_pos := h.1
    maxPositionValueBps_le := h.2 }

/-- Ten shares at 100 with a stop at 90. -/
def heldTen : PositionRiskInput := ⟨⟨"SPY", 10, 100, 1000, 95, by norm_num, by norm_num⟩, some 90⟩

def roundDesk : Desk where
  accountSnapshotId := "snapshot"
  account := ⟨"account", 50000, 50000, 100000, "USD", none, by norm_num, by norm_num, by norm_num⟩
  positions := [heldTen]
  config := weightConfig 2500 (by decide)
  buyingPowerReserveBps := 500

def roundEntries : List Entry :=
  [{ reservationId := "d:QQQ", symbol := "QQQ", referencePrice := 50, stopDistance := 1 / 10,
     drawdown := noDrawdown },
   { reservationId := "d:GLD", symbol := "GLD", referencePrice := 30, stopDistance := 1 / 10,
     drawdown := noDrawdown }]

theorem sequential_approvals_round :
    (roundDesk.approveAll roundEntries).map (·.positionValue) = [25000, 22500] ∧
      roundDesk.WithinLimits (roundDesk.approveAll roundEntries) := by
  refine ⟨by decide +kernel, (sequential_approvals (k := 1) ?_).1 roundEntries ?_ ?_⟩
  · have hopen : openPositions roundDesk.positions = [heldTen] := by decide
    have hrisk : heldTen.openRisk = some 100 := by decide +kernel
    have hvalue : heldTen.grossValue = 1000 := by decide +kernel
    constructor
    · decide
    · exact ⟨⟨60000000000, by norm_num [Desk.cap, roundDesk, weightConfig, singleFund]⟩,
        by norm_num [Desk.cap, roundDesk, weightConfig, singleFund]⟩
    · exact ⟨⟨1000000000000, by norm_num [Desk.cap, roundDesk, weightConfig, singleFund]⟩,
        by norm_num [Desk.cap, roundDesk, weightConfig, singleFund]⟩
    · exact ⟨⟨250000000000, by norm_num [Desk.cap, roundDesk, weightConfig, singleFund]⟩,
        by norm_num [Desk.cap, roundDesk, weightConfig, singleFund]⟩
    · exact ⟨⟨4750000000000000, by norm_num [roundDesk]⟩, by norm_num [roundDesk]⟩
    · exact ⟨⟨475000000000, by norm_num [Desk.buyingPowerCap, roundDesk]⟩,
        by norm_num [Desk.buyingPowerCap, roundDesk]⟩
    · intro item hitem r hr; rw [hopen, List.mem_singleton] at hitem
      rw [hitem, hrisk] at hr; cases hr; exact ⟨1000000000, by norm_num⟩
    · intro item hitem; rw [hopen, List.mem_singleton] at hitem
      rw [hitem, hvalue]; exact ⟨10000000000, by norm_num⟩
    · have h : roundDesk.openRisk [] = 100 := by
        simp [Desk.openRisk, openRisks, hopen, hrisk]
      rw [h]; exact ⟨⟨1000000000, by norm_num⟩, by norm_num⟩
    · have h : roundDesk.gross [] = 1000 := by
        simp [Desk.gross, grossValues, hopen, hvalue]
      rw [h]; exact ⟨⟨10000000000, by norm_num⟩, by norm_num⟩
  · intro e he
    have hcases : e.referencePrice = 50 ∨ e.referencePrice = 30 := by
      simp only [roundEntries, List.mem_cons, List.not_mem_nil, or_false] at he
      rcases he with rfl | rfl
      · exact .inl rfl
      · exact .inr rfl
    have hstop : e.stopDistance = 1 / 10 := by
      simp only [roundEntries, List.mem_cons, List.not_mem_nil, or_false] at he
      rcases he with rfl | rfl <;> rfl
    refine ⟨?_, ⟨1, by rw [hstop]; norm_num⟩⟩; rcases hcases with h | h
    · exact ⟨500, by rw [h]; norm_num⟩
    · exact ⟨300, by rw [h]; norm_num⟩
  · decide

/-- An account whose equity has 28 digits. -/
def longDesk : Desk where
  accountSnapshotId := "snapshot"
  account := ⟨"account", 100, 100, 9999999999999999999999999997 / 10 ^ 27, "USD", none,
    by norm_num, by norm_num, by norm_num⟩
  positions := []
  config := weightConfig 10000 (by decide)
  buyingPowerReserveBps := 0

def longEntry : Entry where
  reservationId := "d:QQQ"
  symbol := "QQQ"
  referencePrice := 4999999999999999999999999999 / 10 ^ 27
  stopDistance := 1 / 1000
  drawdown := noDrawdown

/-- Two shares at `4.99…9` are `9.99…8`; the equity is `9.99…7`, and the quotient of the two
is rounded up to 2. -/
theorem rounded_gross_exceeds :
    longDesk.gross [] ≤ longDesk.cap longDesk.config.maxGrossExposureBps ∧
      ¬ longDesk.WithinLimits (longDesk.approveAll [longEntry]) := by
  have hnone : longDesk.gross [] ≤ longDesk.cap longDesk.config.maxGrossExposureBps := by
    decide +kernel
  refine ⟨hnone, ?_⟩; intro h; have hgross := h.gross hnone
  revert hgross; decide +kernel

end Quantbot.L3.Risk
