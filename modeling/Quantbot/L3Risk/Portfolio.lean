import Quantbot.Core.DecimalGrid
import Quantbot.L1Domain.Models
import Quantbot.L1Domain.StrategyConfig
import Mathlib.Data.List.Dedup

/-!
# Portfolio risk and entry sizing

`risk/models.py`, `risk/portfolio.py` (the aggregation of holdings and reservations) and
`risk/sizing.py`. Every operation on amounts is the decimal one (`Core.Decimal`).
A `RiskReservation` carries what its validators check.
-/
namespace Quantbot.L3.Risk

open Core L1
open Core.Decimal (add sub mul div)

/-! ## Value objects -/

/-- mirrors models.py:39-45 -/
structure DrawdownState where
  currentEquity : ℚ
  highWaterEquity : ℚ
  drawdownFraction : ℚ
  newRiskMultiplier : ℚ
  entryHalted : Bool
  liquidationRequired : Bool
  multiplier_nonneg : 0 ≤ newRiskMultiplier
  multiplier_le : newRiskMultiplier ≤ 1

/-- mirrors models.py:48-50 -/
structure PositionRiskInput where
  position : Position
  activeStop : Option ℚ
deriving DecidableEq

/-- mirrors models.py:53-81 -/
@[ext] structure RiskReservation where
  reservationId : String
  symbol : String
  positionValue : ℚ
  grossExposure : ℚ
  openRisk : ℚ
  reservesPositionSlot : Bool
  buyingPowerAlreadyReserved : Bool := false
  positionValue_pos : 0 < positionValue
  openRisk_pos : 0 < openRisk
  positionValue_le : positionValue ≤ grossExposure

instance : DecidableEq RiskReservation := fun _ _ =>
  decidable_of_iff _ RiskReservation.ext_iff.symm

/-- mirrors models.py:84-95 -/
structure PortfolioRiskState where
  accountSnapshotId : String
  targetSymbol : String
  equity : ℚ
  buyingPower : ℚ
  committedOpenRisk : ℚ
  committedGrossExposure : ℚ
  committedSymbolMarketValue : ℚ
  committedPositionCount : ℕ
  isNewPosition : Bool
  openRiskAvailable : Bool
  reasons : List String
deriving DecidableEq, Repr

inductive SizingCapName
  | perTradeRisk | portfolioOpenRisk | positionValue | grossExposure | buyingPower | volatilityTarget
deriving DecidableEq, Repr

/-- mirrors models.py:128-136 -/
structure SizingCaps where
  perTradeRisk : ℚ
  portfolioOpenRisk : ℚ
  positionValue : ℚ
  grossExposure : ℚ
  buyingPower : ℚ
  volatilityTarget : Option ℚ := none
deriving DecidableEq, Repr

/-- mirrors models.py:139-161 -/
structure EntrySizingRequest where
  symbol : String
  referencePrice : ℚ
  stopDistance : ℚ
  portfolio : PortfolioRiskState
  drawdown : DrawdownState
  realizedVolatility : Option ℚ := none
  symbol_eq : symbol = portfolio.targetSymbol

/-- mirrors models.py:164-185 -/
structure RiskApproval where
  symbol : String
  quantity : ℚ
  fractionalShares : Bool
  stopDistance : ℚ
  drawdownFraction : ℚ
  newRiskMultiplier : ℚ
  effectiveRiskFraction : ℚ
  riskBudget : ℚ
  caps : SizingCaps
  limitingCaps : List SizingCapName
  projectedPositionValue : ℚ
  projectedGrossExposure : ℚ
  projectedOpenRisk : ℚ
deriving DecidableEq, Repr

/-- mirrors models.py:188-194 -/
structure RiskRejection where
  symbol : String
  reasons : List String
  drawdownFraction : ℚ
  newRiskMultiplier : ℚ
  caps : Option SizingCaps
deriving DecidableEq, Repr

inductive RiskSizingResult
  | approval (a : RiskApproval)
  | rejection (r : RiskRejection)
deriving DecidableEq, Repr

/-- What the two functions raise. -/
inductive RiskError
  | valueError (message : String)
  | invalidOperation
deriving DecidableEq, Repr

/-! ## Aggregation -/

/-- One reservation of the loop: kept, skipped as the same again, or in conflict. -/
def deduplicateStep (unique : List RiskReservation) (reservation : RiskReservation) :
    Except RiskError (List RiskReservation) :=
  match unique.find? fun r => r.reservationId = reservation.reservationId with
  | none => .ok (unique ++ [reservation])
  | some existing =>
    if existing ≠ reservation then
      .error (.valueError ("conflicting reservation " ++ reservation.reservationId))
    else .ok unique

/-- mirrors portfolio.py:23-33 -/
def deduplicateReservations (reservations : List RiskReservation) :
    Except RiskError (List RiskReservation) :=
  reservations.foldlM deduplicateStep []

/-- The positions the loop does not skip. -/
def openPositions (positions : List PositionRiskInput) : List PositionRiskInput :=
  positions.filter fun item => item.position.quantity ≠ 0

/-- Risk of a long position down to its stop; a short one or one without a stop is skipped.
mirrors portfolio.py:79-86 -/
def PositionRiskInput.openRisk (item : PositionRiskInput) : Option ℚ :=
  if item.position.quantity < 0 then none
  else item.activeStop.map fun stop =>
    mul item.position.quantity (max (sub item.position.marketPrice stop) 0)

/-- `abs(market_value)`, which is rounded like every operation. -/
def PositionRiskInput.grossValue (item : PositionRiskInput) : ℚ :=
  Decimal.round |item.position.marketValue|

def PositionRiskInput.missingStop (item : PositionRiskInput) : Bool :=
  decide (0 < item.position.quantity) && item.activeStop.isNone

def heldSymbols (positions : List PositionRiskInput) : List String :=
  (openPositions positions).map (·.position.symbol)

/-- Symbols that hold a position slot, each once. -/
def committedSymbols (positions : List PositionRiskInput) (unique : List RiskReservation) :
    List String :=
  (heldSymbols positions ++
    (unique.filter (·.reservesPositionSlot)).map (·.symbol)).dedup

/-- mirrors portfolio.py:36-119 -/
def buildPortfolioRiskState (accountSnapshotId : String) (account : Account)
    (targetSymbol : String) (positions : List PositionRiskInput)
    (reservations : List RiskReservation) (buyingPowerReserveBps : ℕ) :
    Except RiskError PortfolioRiskState := do
  if ¬ buyingPowerReserveBps < 10000 then
    throw (.valueError "buying_power_reserve_bps must be between 0 and 9999")
  else if ¬ (positions.map (·.position.symbol)).Nodup then
    throw (.valueError "positions must contain unique symbols")
  else
    let unique ← deduplicateReservations reservations
    let held := openPositions positions
    let reasons :=
      (if held.any (·.missingStop) then ["OPEN_RISK_UNAVAILABLE"] else []) ++
      (if held.any (·.position.quantity < 0) then ["UNSUPPORTED_SHORT_POSITION"] else [])
    let newlyCommitted :=
      ((unique.filter (!·.buyingPowerAlreadyReserved)).map (·.positionValue)).foldl add 0
    return {
      accountSnapshotId, targetSymbol
      equity := account.equity
      buyingPower := max 0 (sub
        (div (mul account.buyingPower ((10000 - buyingPowerReserveBps : ℕ) : ℚ)) 10000)
        newlyCommitted)
      committedOpenRisk :=
        (held.filterMap (·.openRisk) ++ unique.map (·.openRisk)).foldl add 0
      committedGrossExposure :=
        (held.map (·.grossValue) ++ unique.map (·.grossExposure)).foldl add 0
      committedSymbolMarketValue :=
        ((held.filter (·.position.symbol = targetSymbol)).map (·.grossValue) ++
          (unique.filter (·.symbol = targetSymbol)).map (·.positionValue)).foldl add 0
      committedPositionCount := (committedSymbols positions unique).length
      isNewPosition := decide (targetSymbol ∉ committedSymbols positions unique)
      openRiskAvailable := reasons.isEmpty
      reasons }

/-! ## Sizing -/

/-- `Decimal(bps) / BASIS_POINTS`. -/
def fraction (bps : ℕ) : ℚ := div bps 10000

/-- Rounds down; `quantize` refuses a result of more than 28 digits.
mirrors sizing.py:26-33 -/
def quantizeQuantity (quantity : ℚ) (config : StrategyConfig) : Except RiskError ℚ :=
  if config.allowFractionalShares then
    let coefficient := ⌊quantity * 10 ^ 6⌋
    if coefficient.natAbs < 10 ^ 28 then .ok (coefficient / 10 ^ 6) else .error .invalidOperation
  else .ok ⌊quantity⌋

def rejected (request : EntrySizingRequest) (reasons : List String)
    (caps : Option SizingCaps := none) : RiskSizingResult :=
  .rejection ⟨request.symbol, reasons, request.drawdown.drawdownFraction,
    request.drawdown.newRiskMultiplier, caps⟩

/-- The fields that cannot be sized with.
mirrors sizing.py:51-72 -/
def fieldReasons (request : EntrySizingRequest) : List String :=
  let portfolio := request.portfolio
  (if portfolio.equity ≤ 0 then ["NON_POSITIVE_EQUITY"] else []) ++
  (if request.referencePrice ≤ 0 then ["NON_POSITIVE_REFERENCE_PRICE"] else []) ++
  (if request.stopDistance ≤ 0 then ["NON_POSITIVE_STOP_DISTANCE"] else []) ++
  (if portfolio.buyingPower < 0 then ["NEGATIVE_BUYING_POWER"] else []) ++
  (if portfolio.committedOpenRisk < 0 then ["NEGATIVE_COMMITTED_OPEN_RISK"] else []) ++
  (if portfolio.committedGrossExposure < 0 then ["NEGATIVE_COMMITTED_GROSS_EXPOSURE"] else []) ++
  (if portfolio.committedSymbolMarketValue < 0 then ["NEGATIVE_COMMITTED_SYMBOL_VALUE"] else []) ++
  ["OPEN_RISK_UNAVAILABLE", "UNSUPPORTED_SHORT_POSITION"].filter (· ∈ portfolio.reasons)

/-- mirrors sizing.py:51-77 -/
def invalidInputReasons (request : EntrySizingRequest) : List String :=
  if ¬ request.portfolio.openRiskAvailable ∧ "OPEN_RISK_UNAVAILABLE" ∉ fieldReasons request ∧
      "UNSUPPORTED_SHORT_POSITION" ∉ fieldReasons request then
    fieldReasons request ++ ["OPEN_RISK_UNAVAILABLE"]
  else fieldReasons request

def SizingCapName.exhausted : SizingCapName → String
  | .perTradeRisk => "TRADE_RISK_BUDGET_EXHAUSTED"
  | .portfolioOpenRisk => "PORTFOLIO_OPEN_RISK_LIMIT_REACHED"
  | .positionValue => "POSITION_VALUE_LIMIT_REACHED"
  | .grossExposure => "GROSS_EXPOSURE_LIMIT_REACHED"
  | .buyingPower => "BUYING_POWER_EXHAUSTED"
  | .volatilityTarget => "VOLATILITY_TARGET_REACHED"

/-- What is left of a cap: never below zero. -/
def remaining (equity : ℚ) (bps : ℕ) (committed : ℚ) : ℚ :=
  max 0 (sub (mul equity (fraction bps)) committed)

/-- The value a position may have under the volatility target.
mirrors sizing.py:117-126 -/
def volatilityCap (request : EntrySizingRequest) (config : StrategyConfig) (volatility : ℚ) : ℚ :=
  max 0 (sub (mul request.portfolio.equity (div (fraction config.volatilityTargetBps) volatility))
    request.portfolio.committedSymbolMarketValue)

/-- mirrors sizing.py:98-137 -/
def sizingCaps (request : EntrySizingRequest) (config : StrategyConfig)
    (volatility : Option ℚ) : SizingCaps :=
  let portfolio := request.portfolio
  let riskBudget := mul portfolio.equity
    (mul (fraction config.riskPerTradeBps) request.drawdown.newRiskMultiplier)
  { perTradeRisk := div riskBudget request.stopDistance
    portfolioOpenRisk := div
      (remaining portfolio.equity config.maxOpenRiskBps portfolio.committedOpenRisk)
      request.stopDistance
    positionValue := div
      (remaining portfolio.equity config.maxPositionValueBps portfolio.committedSymbolMarketValue)
      request.referencePrice
    grossExposure := div
      (remaining portfolio.equity config.maxGrossExposureBps portfolio.committedGrossExposure)
      request.referencePrice
    buyingPower := div (max 0 portfolio.buyingPower) request.referencePrice
    volatilityTarget := volatility.map fun v => div (volatilityCap request config v)
      request.referencePrice }

/-- mirrors sizing.py:138-158 -/
def orderedCaps (config : StrategyConfig) (caps : SizingCaps) : List (SizingCapName × ℚ) :=
  (if config.targetWeightSizing then [] else [(.perTradeRisk, caps.perTradeRisk)]) ++
  [(.portfolioOpenRisk, caps.portfolioOpenRisk), (.positionValue, caps.positionValue),
    (.grossExposure, caps.grossExposure), (.buyingPower, caps.buyingPower)] ++
  (caps.volatilityTarget.map fun v => (SizingCapName.volatilityTarget, v)).toList

/-- `min` of the cap values; the open-risk cap is always among them. -/
def minimumCap (config : StrategyConfig) (caps : SizingCaps) : ℚ :=
  ((orderedCaps config caps).map Prod.snd).foldl min caps.portfolioOpenRisk

/-- mirrors sizing.py:160-172 -/
def quantityReasons (request : EntrySizingRequest) (config : StrategyConfig) (caps : SizingCaps)
    (quantity : ℚ) : List String :=
  (((orderedCaps config caps).filter fun c => c.2 ≤ 0).map fun c => c.1.exhausted) ++
  (if config.allowFractionalShares then
    if mul quantity request.referencePrice < 1 then ["NOTIONAL_BELOW_MINIMUM"] else []
  else if quantity < 1 then ["QUANTITY_BELOW_ONE_SHARE"] else [])

/-- mirrors sizing.py:157-189 -/
def sizeWithCaps (request : EntrySizingRequest) (config : StrategyConfig) (caps : SizingCaps) :
    Except RiskError RiskSizingResult := do
  let quantity ← quantizeQuantity (minimumCap config caps) config
  let effectiveRiskFraction :=
    mul (fraction config.riskPerTradeBps) request.drawdown.newRiskMultiplier
  if quantityReasons request config caps quantity ≠ [] then
    return rejected request (quantityReasons request config caps quantity) (some caps)
  else
    let positionValue := mul quantity request.referencePrice
    return .approval {
      symbol := request.symbol
      quantity
      fractionalShares := config.allowFractionalShares
      stopDistance := request.stopDistance
      drawdownFraction := request.drawdown.drawdownFraction
      newRiskMultiplier := request.drawdown.newRiskMultiplier
      effectiveRiskFraction
      riskBudget := mul request.portfolio.equity effectiveRiskFraction
      caps
      limitingCaps :=
        ((orderedCaps config caps).filter fun c => c.2 = minimumCap config caps).map Prod.fst
      projectedPositionValue := add request.portfolio.committedSymbolMarketValue positionValue
      projectedGrossExposure := add request.portfolio.committedGrossExposure positionValue
      projectedOpenRisk :=
        add request.portfolio.committedOpenRisk (mul quantity request.stopDistance) }

/-- mirrors sizing.py:80-189 -/
def sizeEntry (request : EntrySizingRequest) (config : StrategyConfig) :
    Except RiskError RiskSizingResult :=
  let portfolio := request.portfolio
  if invalidInputReasons request ≠ [] then
    .ok (rejected request (invalidInputReasons request))
  else if request.drawdown.entryHalted then .ok (rejected request ["DRAWDOWN_ENTRY_HALT"])
  else if portfolio.isNewPosition ∧ config.maxPositions ≤ portfolio.committedPositionCount then
    .ok (rejected request ["POSITION_LIMIT_REACHED"])
  else if ¬ portfolio.isNewPosition ∧ ¬ config.allowPyramiding then
    .ok (rejected request ["PYRAMIDING_DISABLED"])
  else if config.volatilityTargetBps = 0 then
    sizeWithCaps request config (sizingCaps request config none)
  else match request.realizedVolatility with
    | none => .ok (rejected request ["REALIZED_VOLATILITY_UNAVAILABLE"])
    | some volatility =>
      if volatility ≤ 0 then .ok (rejected request ["REALIZED_VOLATILITY_UNAVAILABLE"])
      else sizeWithCaps request config (sizingCaps request config (some volatility))

end Quantbot.L3.Risk
