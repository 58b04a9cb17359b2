import Quantbot.L1Domain.MarketData
import Mathlib.Data.Rat.Defs
import Mathlib.Data.List.Nodup
import Mathlib.Data.Fin.VecNotation

/-!
# The strategy configuration

`strategy/config.py`. The relations the validator checks are fields, so a configuration
that breaks one cannot be built. Basis points and counts are natural numbers; `symbols` is
the source's `universe`.
-/
namespace Quantbot.L1

/-- Which signal gates are active.
mirrors strategy/config.py:41-57 -/
structure StrategyComponents where
  momentum : Bool := true
  assetTrend : Bool := true
  marketRegime : Bool := true
  donchianEntry : Bool := true
  donchianExit : Bool := true
  trailingStop : Bool := true
  rosterExit : Bool := true
deriving DecidableEq, Repr

/-- mirrors strategy/config.py:60-227 -/
structure StrategyConfig where
  symbols : List String
  benchmarkSymbol : String
  regimeSymbol : String
  rosterSize : ℕ
  momentumLong : ℕ
  momentumSkip : ℕ
  trendPeriod : ℕ
  entryPeriod : ℕ
  exitPeriod : ℕ
  atrPeriod : ℕ
  initialStopAtr : ℚ
  trailingStopAtr : ℚ
  positiveMomentumRequired : Bool
  marketRegimeBlocksEntriesOnly : Bool
  riskPerTradeBps : ℕ
  maxOpenRiskBps : ℕ
  maxPositionValueBps : ℕ
  maxGrossExposureBps : ℕ
  maxPositions : ℕ
  drawdownThresholdsBps : Fin 4 → ℕ
  drawdownMultipliersBps : Fin 5 → ℕ
  slippageBps : ℕ
  commissionPerOrder : ℚ
  idleCashRateBps : ℕ
  allowFractionalShares : Bool
  allowPyramiding : Bool
  volatilityTargetBps : ℕ := 0
  volatilityLookbackDays : ℕ := 20
  rebalanceTranches : ℕ := 1
  targetWeightSizing : Bool := false
  trendGatePerSession : Bool := false
  drawdownLookbackSessions : ℕ := 0
  drawdownHaltFloorBps : ℕ := 0
  components : StrategyComponents := {}
  calendar : TradingCalendar := .xnys
  version : String := "1.0.0"
  symbols_ne : symbols ≠ []
  symbols_nodup : symbols.Nodup
  rosterSize_pos : 0 < rosterSize
  rosterSize_le_symbols : rosterSize ≤ symbols.length
  rosterSize_le_positions : rosterSize ≤ maxPositions
  momentumSkip_lt : momentumSkip < momentumLong
  trendPeriod_pos : 0 < trendPeriod
  exitPeriod_pos : 0 < exitPeriod
  exitPeriod_lt : exitPeriod < entryPeriod
  atrPeriod_pos : 0 < atrPeriod
  initialStopAtr_pos : 0 < initialStopAtr
  initialStopAtr_le : initialStopAtr ≤ trailingStopAtr
  riskPerTradeBps_pos : 0 < riskPerTradeBps
  riskPerTradeBps_le : riskPerTradeBps ≤ maxOpenRiskBps
  maxPositionValueBps_pos : 0 < maxPositionValueBps
  maxPositionValueBps_le : maxPositionValueBps ≤ maxGrossExposureBps
  thresholds_range : ∀ i, 0 < drawdownThresholdsBps i ∧ drawdownThresholdsBps i ≤ 10000
  thresholds_increasing : ∀ i j, i < j → drawdownThresholdsBps i < drawdownThresholdsBps j
  multipliers_le : ∀ i, drawdownMultipliersBps i ≤ 10000
  multipliers_nonincreasing : ∀ i j, i ≤ j → drawdownMultipliersBps j ≤ drawdownMultipliersBps i
  commission_nonneg : 0 ≤ commissionPerOrder
  volatilityLookbackDays_gt : 1 < volatilityLookbackDays
  rebalanceTranches_pos : 0 < rebalanceTranches
  rebalanceTranches_le : rebalanceTranches ≤ 21
  drawdownHaltFloorBps_le : drawdownHaltFloorBps ≤ 10000

/-- One fund under four drawdown tiers. -/
def singleFund : StrategyConfig where
  symbols := ["SPY"]
  benchmarkSymbol := "SPY"
  regimeSymbol := "SPY"
  rosterSize := 1
  momentumLong := 252
  momentumSkip := 21
  trendPeriod := 200
  entryPeriod := 55
  exitPeriod := 20
  atrPeriod := 20
  initialStopAtr := 2
  trailingStopAtr := 3
  positiveMomentumRequired := true
  marketRegimeBlocksEntriesOnly := true
  riskPerTradeBps := 50
  maxOpenRiskBps := 500
  maxPositionValueBps := 1000
  maxGrossExposureBps := 10000
  maxPositions := 10
  drawdownThresholdsBps := ![500, 1000, 1500, 2000]
  drawdownMultipliersBps := ![10000, 7500, 5000, 0, 0]
  slippageBps := 5
  commissionPerOrder := 0
  idleCashRateBps := 0
  allowFractionalShares := false
  allowPyramiding := false
  symbols_ne := by decide
  symbols_nodup := by decide
  rosterSize_pos := by decide
  rosterSize_le_symbols := by decide
  rosterSize_le_positions := by decide
  momentumSkip_lt := by decide
  trendPeriod_pos := by decide
  exitPeriod_pos := by decide
  exitPeriod_lt := by decide
  atrPeriod_pos := by decide
  initialStopAtr_pos := pair_pos
  initialStopAtr_le := by decide
  riskPerTradeBps_pos := by decide
  riskPerTradeBps_le := by decide
  maxPositionValueBps_pos := by decide
  maxPositionValueBps_le := by decide
  thresholds_range := by decide
  thresholds_increasing := by decide
  multipliers_le := by decide
  multipliers_nonincreasing := by decide
  commission_nonneg := nil_nonneg
  volatilityLookbackDays_gt := by decide
  rebalanceTranches_pos := by decide
  rebalanceTranches_le := by decide
  drawdownHaltFloorBps_le := by decide

end Quantbot.L1
