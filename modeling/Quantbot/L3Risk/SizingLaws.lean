import Quantbot.L3Risk.SizeEntry
import Mathlib.Data.Fin.VecNotation

/-!
# Safe, maximal and monotone sizing

The caps of `size_entry` in money, in exact arithmetic. `Within` is one cap in the unit it is
configured in; `cap_iff` says that a quantity fits the computed cap exactly when it keeps the
cap in money.

* `sized`: an approval is a whole number of lots, within every cap that applies, and one more
  lot breaks each cap it reports as limiting;
* `approvedQuantity_le`: a request that is worse in committed amounts, buying power or
  drawdown multiplier is not approved for more.

`raising_negative_exposure`: a negative committed amount is refused, so raising it to zero
can turn a rejection into an approval.
-/
namespace Quantbot.L3.Risk

open Core L1

/-! ## The smallest cap -/

/-- The value of a cap, when it is computed. -/
def SizingCaps.get (caps : SizingCaps) : SizingCapName → Option ℚ
  | .perTradeRisk => some caps.perTradeRisk
  | .portfolioOpenRisk => some caps.portfolioOpenRisk
  | .positionValue => some caps.positionValue
  | .grossExposure => some caps.grossExposure
  | .buyingPower => some caps.buyingPower
  | .volatilityTarget => caps.volatilityTarget

/-- The caps an order has to respect under a configuration. -/
def Applies (config : StrategyConfig) : SizingCapName → Prop
  | .perTradeRisk => config.targetWeightSizing = false
  | .volatilityTarget => config.volatilityTargetBps ≠ 0
  | _ => True

variable {name : SizingCapName} {config : StrategyConfig}

theorem mem_orderedCaps {caps : SizingCaps} {value : ℚ} : (name, value) ∈ orderedCaps config caps ↔
      (name = .perTradeRisk → config.targetWeightSizing = false) ∧ caps.get name = some value := by
  unfold orderedCaps
  cases hweight : config.targetWeightSizing <;> cases name <;>
    simp [SizingCaps.get, eq_comm]

theorem minimumCap_mem (config : StrategyConfig) (caps : SizingCaps) :
    ∃ name, (name, minimumCap config caps) ∈ orderedCaps config caps := by
  have hopen : (.portfolioOpenRisk, caps.portfolioOpenRisk) ∈ orderedCaps config caps :=
    mem_orderedCaps.2 ⟨(nofun), rfl⟩
  rcases List.mem_cons.1 (foldl_min_iff.1 (rfl : minimumCap config caps = _)).1 with h | h
  · exact ⟨_, by rw [h]; exact hopen⟩
  · obtain ⟨⟨name, value⟩, hmem, hvalue⟩ := List.mem_map.1 h
    exact ⟨name, by rw [← hvalue]; exact hmem⟩

theorem minimumCap_mono {caps caps' : SizingCaps} (h : ∀ name value, caps.get name = some value →
      ∃ value', caps'.get name = some value' ∧ value' ≤ value) :
    minimumCap config caps' ≤ minimumCap config caps := by
  obtain ⟨name, hmem⟩ := minimumCap_mem config caps
  obtain ⟨hname, hget⟩ := mem_orderedCaps.1 hmem
  obtain ⟨value', hget', hle⟩ := h name _ hget
  exact (minimumCap_le (mem_orderedCaps.2 ⟨hname, hget'⟩)).trans hle

/-! ## The caps in money -/

/-- One cap, in the unit it is configured in: what is committed and what the quantity adds do
not exceed the configured part of the equity. -/
def Within (request : EntrySizingRequest) (config : StrategyConfig) (name : SizingCapName)
    (quantity : ℚ) : Prop :=
  let portfolio := request.portfolio
  match name with
  | .perTradeRisk => quantity * request.stopDistance ≤
      portfolio.equity * (config.riskPerTradeBps / 10000 * request.drawdown.newRiskMultiplier)
  | .portfolioOpenRisk => portfolio.committedOpenRisk + quantity * request.stopDistance ≤
      portfolio.equity * (config.maxOpenRiskBps / 10000)
  | .positionValue =>
      portfolio.committedSymbolMarketValue + quantity * request.referencePrice ≤
        portfolio.equity * (config.maxPositionValueBps / 10000)
  | .grossExposure => portfolio.committedGrossExposure + quantity * request.referencePrice ≤
      portfolio.equity * (config.maxGrossExposureBps / 10000)
  | .buyingPower => quantity * request.referencePrice ≤ portfolio.buyingPower
  | .volatilityTarget => ∀ volatility, request.realizedVolatility = some volatility →
      portfolio.committedSymbolMarketValue + quantity * request.referencePrice ≤
        portfolio.equity * (config.volatilityTargetBps / 10000 / volatility)

section Request
variable {request : EntrySizingRequest} {config : StrategyConfig}

/-- The caps of a request in exact arithmetic. -/
abbrev capsOf (request : EntrySizingRequest) (config : StrategyConfig) : SizingCaps :=
  sizingCapsIn .exact request config (usedVolatility request config)

theorem le_remaining_iff {limit committed unit quantity : ℚ} (hunit : 0 < unit)
    (hpos : 0 < max 0 (limit - committed) / unit) :
    quantity ≤ max 0 (limit - committed) / unit ↔ committed + quantity * unit ≤ limit := by
  have hleft : max 0 (limit - committed) = limit - committed := by
    rcases max_choice 0 (limit - committed) with h | h
    · rw [h, zero_div] at hpos; exact absurd hpos (lt_irrefl _)
    · exact h
  rw [hleft, le_div_iff₀ hunit, le_sub_iff_add_le']

theorem valid_buyingPower (h : invalidInputReasons request = []) :
    0 ≤ request.portfolio.buyingPower := by
  have hfields := fieldReasons_nil h
  simp only [fieldReasons, List.append_eq_nil_iff, ite_eq_right_iff, reduceCtorEq, imp_false,
    not_lt] at hfields
  exact hfields.1.1.1.1.2

theorem cap_iff (hready : Ready request config) {cap quantity : ℚ}
    (hget : (capsOf request config).get name = some cap) (hpos : 0 < cap) :
    quantity ≤ cap ↔ Within request config name quantity := by
  obtain ⟨-, hprice, hstop⟩ := valid_prices hready.valid
  cases name with
  | perTradeRisk =>
    cases hget; exact le_div_iff₀ hstop
  | portfolioOpenRisk =>
    cases hget; exact le_remaining_iff hstop hpos
  | positionValue | grossExposure =>
    cases hget; exact le_remaining_iff hprice hpos
  | buyingPower =>
    cases hget
    show quantity ≤ max 0 request.portfolio.buyingPower / request.referencePrice ↔ _
    rw [max_eq_right (valid_buyingPower hready.valid), le_div_iff₀ hprice]; rfl
  | volatilityTarget =>
    have hmap : (usedVolatility request config).map (fun v => Context.exact.arith.div
        (volatilityCapIn .exact request config v) request.referencePrice) = some cap := hget
    obtain ⟨v, hv, rfl⟩ := Option.map_eq_some_iff.1 hmap
    have hreal : request.realizedVolatility = some v := by
      unfold usedVolatility at hv; split at hv
      · cases hv
      · exact hv
    refine (le_remaining_iff hprice hpos).trans ⟨fun h w hw => ?_, fun h => h v hreal⟩
    rw [hreal, Option.some.injEq] at hw; rw [← hw]; exact h

theorem applies_iff (hready : Ready request config) :
    Applies config name ↔ ∃ cap, (name, cap) ∈ orderedCaps config (capsOf request config) := by
  have hvolatility : config.volatilityTargetBps ≠ 0 ↔
      ∃ cap, (capsOf request config).get .volatilityTarget = some cap := by
    constructor
    · intro htarget; obtain ⟨v, hv, -⟩ := hready.volatility htarget
      refine ⟨_, Option.map_eq_some_iff.2 ⟨v, ?_, rfl⟩⟩
      rw [usedVolatility, if_neg htarget, hv]
    · rintro ⟨cap, hget⟩ hzero
      obtain ⟨v, hv, -⟩ := Option.map_eq_some_iff.1 hget
      rw [usedVolatility, if_pos hzero] at hv; cases hv
  cases name with
  | volatilityTarget => simp only [Applies, hvolatility, mem_orderedCaps, reduceCtorEq,
      false_implies, true_and]
  | perTradeRisk | portfolioOpenRisk | positionValue | grossExposure | buyingPower =>
    simp [Applies, mem_orderedCaps, SizingCaps.get]

/-! ## One approval -/

/-- What an approval guarantees. -/
structure Sized (request : EntrySizingRequest) (config : StrategyConfig) (a : RiskApproval) :
    Prop where
  lots : ∃ n : ℕ, 0 < n ∧ a.quantity = n * lot config
  within : ∀ name, Applies config name → Within request config name a.quantity
  limited : a.limitingCaps ≠ []
  maximal : ∀ name ∈ a.limitingCaps,
    Applies config name ∧ ¬ Within request config name (a.quantity + lot config)

theorem Enough.pos {quantity : ℚ} (hprice : 0 < request.referencePrice)
    (h : Enough request config quantity) : 0 < quantity := by
  unfold Enough at h; split at h
  · by_contra hneg
    have hnonpos : quantity * request.referencePrice ≤ 0 :=
      mul_nonpos_of_nonpos_of_nonneg (not_lt.1 hneg) hprice.le
    linarith
  · linarith

/-- **One approval**: whole lots, every cap kept, the limiting caps exhausted. -/
theorem sized {a : RiskApproval} (h : sizeEntryIn .exact request config = .ok (.approval a)) :
    Sized request config a := by
  obtain ⟨hready, hcaps⟩ := sizeEntryIn_approval h
  obtain ⟨hpos, henough, ha⟩ := sizeWithCapsIn_approval.1 hcaps
  obtain ⟨-, hprice, -⟩ := valid_prices hready.valid
  have hquantity : a.quantity =
      Risk.lots config (minimumCap config (capsOf request config)) * lot config := by rw [ha]; rfl
  have hlimiting : ∀ name, name ∈ a.limitingCaps ↔
      (name, minimumCap config (capsOf request config)) ∈
        orderedCaps config (capsOf request config) := by
    intro name; rw [ha]
    simp only [approvalIn, List.mem_map, List.mem_filter, decide_eq_true_eq, Prod.exists,
      exists_and_right, exists_eq_right]
  refine ⟨?_, ?_, ?_, ?_⟩
  · have hq : 0 < a.quantity := hquantity ▸ henough.pos hprice
    rw [hquantity] at hq ⊢
    have hn : 0 < Risk.lots config (minimumCap config (capsOf request config)) := by
      exact_mod_cast pos_of_mul_pos_left hq (lot_pos config).le
    refine ⟨(Risk.lots config (minimumCap config (capsOf request config))).toNat, ?_, ?_⟩
    · omega
    have hcast := congrArg (Int.cast (R := ℚ)) (Int.toNat_of_nonneg hn.le)
    rw [Int.cast_natCast] at hcast; rw [hcast]
  · intro name happlies; obtain ⟨cap, hmem⟩ := (applies_iff hready).1 happlies
    refine (cap_iff hready (mem_orderedCaps.1 hmem).2 (hpos _ hmem)).1 ?_
    rw [hquantity]; exact (lots_mul_le _ _).trans (minimumCap_le hmem)
  · obtain ⟨name, hmem⟩ := minimumCap_mem config (capsOf request config)
    exact List.ne_nil_of_mem ((hlimiting name).2 hmem)
  · intro name hname; have hmem := (hlimiting name).1 hname
    refine ⟨(applies_iff hready).2 ⟨_, hmem⟩, fun hwithin => ?_⟩
    have hle := (cap_iff hready (mem_orderedCaps.1 hmem).2 (hpos _ hmem)).2 hwithin
    rw [hquantity] at hle; exact absurd (lt_lots_mul config _) (not_lt.2 hle)

end Request

/-! ## Two requests -/

/-- The quantity a result approves: none for a rejection. -/
def approvedQuantity : Except RiskError RiskSizingResult → ℚ
  | .ok (.approval a) => a.quantity
  | _ => 0

/-- The same order in a book that has committed more, with less buying power or in a deeper
drawdown. -/
structure Worse (base worse : EntrySizingRequest) : Prop where
  referencePrice : worse.referencePrice = base.referencePrice
  stopDistance : worse.stopDistance = base.stopDistance
  realizedVolatility : worse.realizedVolatility = base.realizedVolatility
  equity : worse.portfolio.equity = base.portfolio.equity
  isNewPosition : worse.portfolio.isNewPosition = base.portfolio.isNewPosition
  openRiskAvailable : worse.portfolio.openRiskAvailable = base.portfolio.openRiskAvailable
  reasons : worse.portfolio.reasons = base.portfolio.reasons
  positionCount : base.portfolio.committedPositionCount ≤ worse.portfolio.committedPositionCount
  openRisk : base.portfolio.committedOpenRisk ≤ worse.portfolio.committedOpenRisk
  grossExposure : base.portfolio.committedGrossExposure ≤ worse.portfolio.committedGrossExposure
  symbolValue :
    base.portfolio.committedSymbolMarketValue ≤ worse.portfolio.committedSymbolMarketValue
  buyingPower : worse.portfolio.buyingPower ≤ base.portfolio.buyingPower
  multiplier : worse.drawdown.newRiskMultiplier ≤ base.drawdown.newRiskMultiplier
  entryHalted : base.drawdown.entryHalted = true → worse.drawdown.entryHalted = true

/-- Nothing committed is below zero. -/
structure Committed (portfolio : PortfolioRiskState) : Prop where
  openRisk : 0 ≤ portfolio.committedOpenRisk
  grossExposure : 0 ≤ portfolio.committedGrossExposure
  symbolValue : 0 ≤ portfolio.committedSymbolMarketValue

section Two
variable {base worse : EntrySizingRequest} {config : StrategyConfig}

/-- The fields of a better request can be sized with, when those of a worse one can. -/
theorem Worse.fieldReasons (h : Worse base worse) (hcommitted : Committed base.portfolio)
    (hworse : fieldReasons worse = []) : fieldReasons base = [] := by
  simp only [Risk.fieldReasons, List.append_eq_nil_iff, ite_eq_right_iff, reduceCtorEq,
    imp_false, not_le, not_lt] at hworse ⊢
  obtain ⟨⟨⟨⟨⟨⟨⟨hequity, hprice⟩, hstop⟩, hpower⟩, -⟩, -⟩, -⟩, hreasons⟩ := hworse
  refine ⟨⟨⟨⟨⟨⟨⟨?_, ?_⟩, ?_⟩, ?_⟩, hcommitted.openRisk⟩, hcommitted.grossExposure⟩,
    hcommitted.symbolValue⟩, ?_⟩
  · exact h.equity ▸ hequity
  · exact h.referencePrice ▸ hprice
  · exact h.stopDistance ▸ hstop
  · exact hpower.trans h.buyingPower
  · exact h.reasons ▸ hreasons

variable {request : EntrySizingRequest}

theorem invalidInputReasons_nil : invalidInputReasons request = [] ↔
      fieldReasons request = [] ∧ request.portfolio.openRiskAvailable = true := by
  constructor
  · intro h; have hfields := fieldReasons_nil h; refine ⟨hfields, ?_⟩
    by_contra havailable; unfold invalidInputReasons at h
    rw [if_pos ⟨havailable, by simp [hfields], by simp [hfields]⟩] at h
    simp at h
  · rintro ⟨hfields, havailable⟩; unfold invalidInputReasons
    rw [if_neg fun hnot => hnot.1 havailable]; exact hfields

theorem Worse.ready (h : Worse base worse) (hcommitted : Committed base.portfolio)
    (hready : Ready worse config) : Ready base config := by
  obtain ⟨hfields, havailable⟩ := invalidInputReasons_nil.1 hready.valid
  refine ⟨invalidInputReasons_nil.2 ⟨h.fieldReasons hcommitted hfields, ?_⟩, ?_, ?_, ?_, ?_⟩
  · exact h.openRiskAvailable ▸ havailable
  · by_contra hhalted; have := h.entryHalted (by simpa using hhalted)
    simp [hready.running] at this
  · intro hnew; have := hready.slot (h.isNewPosition ▸ hnew)
    have := h.positionCount; omega
  · intro hheld; exact hready.pyramid (h.isNewPosition ▸ hheld)
  · intro htarget; exact h.realizedVolatility ▸ hready.volatility htarget

theorem remaining_anti {limit committed committed' unit : ℚ} (hunit : 0 < unit)
    (h : committed ≤ committed') :
    max 0 (limit - committed') / unit ≤ max 0 (limit - committed) / unit := by
  refine div_le_div_of_nonneg_right (max_le_max le_rfl ?_) hunit.le; linarith

theorem Worse.caps (h : Worse base worse) (hready : Ready worse config) (name : SizingCapName)
    (value : ℚ) (hget : (capsOf base config).get name = some value) :
    ∃ value', (capsOf worse config).get name = some value' ∧ value' ≤ value := by
  obtain ⟨hequity, hprice, hstop⟩ := valid_prices hready.valid
  have hriskFraction : (0 : ℚ) ≤ config.riskPerTradeBps / 10000 := by positivity
  cases name with
  | perTradeRisk =>
    cases hget; refine ⟨_, rfl, ?_⟩
    show worse.portfolio.equity * (config.riskPerTradeBps / 10000 *
        worse.drawdown.newRiskMultiplier) / worse.stopDistance ≤
      base.portfolio.equity * (config.riskPerTradeBps / 10000 *
        base.drawdown.newRiskMultiplier) / base.stopDistance
    rw [← h.equity, ← h.stopDistance]
    exact div_le_div_of_nonneg_right (mul_le_mul_of_nonneg_left
      (mul_le_mul_of_nonneg_left h.multiplier hriskFraction) hequity.le) hstop.le
  | portfolioOpenRisk =>
    cases hget; refine ⟨_, rfl, ?_⟩
    show max 0 (_ - worse.portfolio.committedOpenRisk) / worse.stopDistance ≤
      max 0 (base.portfolio.equity * _ - base.portfolio.committedOpenRisk) / base.stopDistance
    rw [← h.equity, ← h.stopDistance]; exact remaining_anti hstop h.openRisk
  | positionValue =>
    cases hget; refine ⟨_, rfl, ?_⟩
    show max 0 (_ - worse.portfolio.committedSymbolMarketValue) / worse.referencePrice ≤
      max 0 (base.portfolio.equity * _ - base.portfolio.committedSymbolMarketValue) /
        base.referencePrice
    rw [← h.equity, ← h.referencePrice]
    exact remaining_anti hprice h.symbolValue
  | grossExposure =>
    cases hget; refine ⟨_, rfl, ?_⟩
    show max 0 (_ - worse.portfolio.committedGrossExposure) / worse.referencePrice ≤
      max 0 (base.portfolio.equity * _ - base.portfolio.committedGrossExposure) /
        base.referencePrice
    rw [← h.equity, ← h.referencePrice]
    exact remaining_anti hprice h.grossExposure
  | buyingPower =>
    cases hget; refine ⟨_, rfl, ?_⟩
    show max 0 worse.portfolio.buyingPower / worse.referencePrice ≤
      max 0 base.portfolio.buyingPower / base.referencePrice
    rw [← h.referencePrice]
    exact div_le_div_of_nonneg_right (max_le_max le_rfl h.buyingPower) hprice.le
  | volatilityTarget =>
    obtain ⟨v, hv, rfl⟩ := Option.map_eq_some_iff.1 hget
    have hv' : usedVolatility worse config = some v := by
      rw [← hv, usedVolatility, usedVolatility, h.realizedVolatility]
    refine ⟨_, Option.map_eq_some_iff.2 ⟨v, hv', rfl⟩, ?_⟩
    show max 0 (_ - worse.portfolio.committedSymbolMarketValue) / worse.referencePrice ≤
      max 0 (base.portfolio.equity * _ - base.portfolio.committedSymbolMarketValue) /
        base.referencePrice
    rw [← h.equity, ← h.referencePrice]
    exact remaining_anti hprice h.symbolValue

theorem Enough.mono {quantity quantity' : ℚ}
    (hprice : 0 < request.referencePrice) (h : Enough request config quantity)
    (hle : quantity ≤ quantity') : Enough request config quantity' := by
  unfold Enough at h ⊢
  by_cases hfractional : config.allowFractionalShares = true
  · rw [if_pos hfractional] at h ⊢
    exact h.trans (mul_le_mul_of_nonneg_right hle hprice.le)
  · rw [if_neg hfractional] at h ⊢; exact h.trans hle

theorem approvedQuantity_nonneg (request : EntrySizingRequest) (config : StrategyConfig) :
    0 ≤ approvedQuantity (sizeEntryIn .exact request config) := by
  cases hresult : sizeEntryIn .exact request config with
  | error e => exact le_rfl
  | ok result =>
    cases result with
    | rejection r => exact le_rfl
    | approval a =>
      obtain ⟨n, -, hn⟩ := (sized hresult).lots; show 0 ≤ a.quantity; rw [hn]
      exact mul_nonneg (Nat.cast_nonneg n) (lot_pos config).le

/-- **Monotone sizing.** A worse request is not approved for more than a better one. -/
theorem approvedQuantity_le (h : Worse base worse) (hcommitted : Committed base.portfolio) :
    approvedQuantity (sizeEntryIn .exact worse config) ≤
      approvedQuantity (sizeEntryIn .exact base config) := by
  cases hresult : sizeEntryIn .exact worse config with
  | error e => exact approvedQuantity_nonneg base config
  | ok result =>
    cases result with
    | rejection r => exact approvedQuantity_nonneg base config
    | approval a =>
      obtain ⟨hready, hcaps⟩ := sizeEntryIn_approval hresult
      obtain ⟨hpos, henough, ha⟩ := sizeWithCapsIn_approval.1 hcaps
      obtain ⟨-, hprice, -⟩ := valid_prices hready.valid
      have hbase := h.ready hcommitted hready
      have hmin : minimumCap config (capsOf worse config) ≤ minimumCap config (capsOf base config) :=
        minimumCap_mono (h.caps hready)
      have hlots := lots_mono config hmin
      have hpos' : ∀ c ∈ orderedCaps config (capsOf base config), 0 < c.2 := by
        rintro ⟨name, value⟩ hmem
        obtain ⟨hname, hget⟩ := mem_orderedCaps.1 hmem
        obtain ⟨value', hget', hle⟩ := h.caps hready name value hget
        exact (hpos _ (mem_orderedCaps.2 ⟨hname, hget'⟩)).trans_le hle
      have henough' : Enough base config
          (lots config (minimumCap config (capsOf base config)) * lot config) := by
        have hworse := henough.mono hprice hlots; unfold Enough at hworse ⊢
        rw [← h.referencePrice]; exact hworse
      have happroved := sizeWithCapsIn_approval.2 ⟨hpos', henough', rfl⟩
      rw [sizeEntryIn_ready hbase, happroved, ha]; exact hlots

end Two

theorem exists_approval {result : Except RiskError RiskSizingResult}
    (h : 0 < approvedQuantity result) : ∃ a, result = .ok (.approval a) := by
  cases result with
  | error e => exact absurd h (lt_irrefl _)
  | ok result =>
    cases result with
    | rejection r => exact absurd h (lt_irrefl _)
    | approval a => exact ⟨a, rfl⟩

theorem sizeEntryIn_total (request : EntrySizingRequest) (config : StrategyConfig) :
    ∃ result, sizeEntryIn .exact request config = .ok result := by
  rcases sizeEntryIn_cases .exact request config with
    ⟨-, heq⟩ | ⟨-, reasons, heq⟩
  · exact ⟨_, heq.trans (sizeWithCapsIn_exact request config _)⟩
  · exact ⟨_, heq⟩

/-- **Safe, maximal, monotone.** In exact arithmetic every request is answered, an approval
keeps every cap and exhausts the limiting ones, and a worse book is not approved for more. -/
theorem size_entry_laws (config : StrategyConfig) (request : EntrySizingRequest) :
    (∃ result, sizeEntryIn .exact request config = .ok result) ∧
      (∀ a, sizeEntryIn .exact request config = .ok (.approval a) → Sized request config a) ∧
      ∀ worse, Worse request worse → Committed request.portfolio →
        approvedQuantity (sizeEntryIn .exact worse config) ≤
          approvedQuantity (sizeEntryIn .exact request config) :=
  ⟨sizeEntryIn_total request config, fun _ h => sized h,
    fun _ h hcommitted => approvedQuantity_le h hcommitted⟩

/-- Tiers at 5, 10, 15 and 20 percent, one lot a share. -/
def tieredConfig (haltFloorBps : ℕ) (hfloor : haltFloorBps ≤ 10000) : StrategyConfig :=
  { singleFund with drawdownHaltFloorBps := haltFloorBps, drawdownHaltFloorBps_le := hfloor }

/-- An order for `SPY` at 50 with a stop 4 away, in a book of 10000. -/
def orderWith (buyingPower grossExposure : ℚ) : EntrySizingRequest where
  symbol := "SPY"
  referencePrice := 50
  stopDistance := 4
  portfolio := {
    accountSnapshotId := "snapshot", targetSymbol := "SPY", equity := 10000, buyingPower
    committedOpenRisk := 0, committedGrossExposure := grossExposure
    committedSymbolMarketValue := 0, committedPositionCount := 0, isNewPosition := true
    openRiskAvailable := true, reasons := [] }
  drawdown := ⟨10000, 10000, 0, 1, false, false, unit_nonneg, unit_le⟩
  symbol_eq := rfl

/-- 12 shares are approved, and no more once a fifth of the buying power is gone. -/
theorem size_entry_laws_order :
    approvedQuantity (sizeEntryIn .exact (orderWith 400 0) (tieredConfig 0 (by decide))) ≤
        approvedQuantity (sizeEntryIn .exact (orderWith 500 0) (tieredConfig 0 (by decide))) ∧
      ∃ a, sizeEntryIn .exact (orderWith 500 0) (tieredConfig 0 (by decide)) = .ok (.approval a) ∧
        Sized (orderWith 500 0) (tieredConfig 0 (by decide)) a := by
  obtain ⟨-, happroval, hworse⟩ :=
    size_entry_laws (tieredConfig 0 (by decide)) (orderWith 500 0)
  refine ⟨hworse (orderWith 400 0) ?_ ?_, ?_⟩
  · constructor <;> first | rfl | exact le_rfl | exact id
  · constructor <;> exact le_rfl
  · have happroved : ∃ a, sizeEntryIn .exact (orderWith 500 0) (tieredConfig 0 (by decide)) =
        .ok (.approval a) :=
      exists_approval (by decide +kernel)
    obtain ⟨a, ha⟩ := happroved; exact ⟨a, ha, happroval a ha⟩

/-- **A negative exposure is refused.** Raising it to zero turns the rejection into an
approval. -/
theorem raising_negative_exposure :
    ¬ ∀ (config : StrategyConfig) (base worse : EntrySizingRequest), Worse base worse →
      approvedQuantity (sizeEntryIn .exact worse config) ≤
        approvedQuantity (sizeEntryIn .exact base config) := by
  intro h
  have hworse : Worse (orderWith 500 (-1)) (orderWith 500 0) := by
    constructor <;> first | rfl | exact le_rfl | exact id
  have hle := h (tieredConfig 0 (by decide)) _ _ hworse; revert hle
  decide +kernel

end Quantbot.L3.Risk
