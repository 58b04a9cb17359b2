import Quantbot.Core.Arith
import Quantbot.L3Risk.Sizing

/-!
# `size_entry` in two arithmetics

`risk/sizing.py` written once over a `Context`: the four operations and what a quantized
coefficient may be. `Context.decimal` is `sizeEntry` of `Quantbot.L3Risk.Portfolio`
(`sizeEntryIn_decimal`); `Context.exact` does not round and refuses no coefficient.

* `sizeEntryIn_approval`, `sizeEntryIn_ready`: a request reaches the caps exactly when it is
  `Ready`;
* `sizeWithCapsIn_exact`, `sizeWithCapsIn_approval`: what is approved over given caps.
-/
namespace Quantbot.L3.Risk

open Core L1

/-- The operations, and the coefficients `quantize` can hold. -/
structure Context where
  arith : Arith
  holds : ℤ → Bool

namespace Context

def decimal : Context := ⟨Arith.decimal, fun coefficient => decide (coefficient.natAbs < 10 ^ 28)⟩

def exact : Context := ⟨Arith.exact, fun _ => true⟩

end Context

section Model
variable (C : Context)

/-- `Decimal(bps) / BASIS_POINTS`. -/
def fractionIn (bps : ℕ) : ℚ := C.arith.div bps 10000

/-- mirrors sizing.py:24-31 -/
def quantizeQuantityIn (quantity : ℚ) (config : StrategyConfig) : Except RiskError ℚ :=
  if config.allowFractionalShares then
    let coefficient := ⌊quantity * 10 ^ 6⌋
    if C.holds coefficient then .ok (coefficient / 10 ^ 6) else .error .invalidOperation
  else .ok ⌊quantity⌋

/-- What is left of a cap: never below zero. -/
def remainingIn (equity : ℚ) (bps : ℕ) (committed : ℚ) : ℚ :=
  max 0 (C.arith.sub (C.arith.mul equity (fractionIn C bps)) committed)

/-- mirrors sizing.py:114-123 -/
def volatilityCapIn (request : EntrySizingRequest) (config : StrategyConfig)
    (volatility : ℚ) : ℚ :=
  max 0 (C.arith.sub
    (C.arith.mul request.portfolio.equity
      (C.arith.div (fractionIn C config.volatilityTargetBps) volatility))
    request.portfolio.committedSymbolMarketValue)

/-- mirrors sizing.py:94-134 -/
def sizingCapsIn (request : EntrySizingRequest) (config : StrategyConfig)
    (volatility : Option ℚ) : SizingCaps :=
  let portfolio := request.portfolio
  let riskBudget := C.arith.mul portfolio.equity
    (C.arith.mul (fractionIn C config.riskPerTradeBps) request.drawdown.newRiskMultiplier)
  { perTradeRisk := C.arith.div riskBudget request.stopDistance
    portfolioOpenRisk := C.arith.div
      (remainingIn C portfolio.equity config.maxOpenRiskBps portfolio.committedOpenRisk)
      request.stopDistance
    positionValue := C.arith.div
      (remainingIn C portfolio.equity config.maxPositionValueBps
        portfolio.committedSymbolMarketValue)
      request.referencePrice
    grossExposure := C.arith.div
      (remainingIn C portfolio.equity config.maxGrossExposureBps
        portfolio.committedGrossExposure)
      request.referencePrice
    buyingPower := C.arith.div (max 0 portfolio.buyingPower) request.referencePrice
    volatilityTarget := volatility.map fun v => C.arith.div (volatilityCapIn C request config v)
      request.referencePrice }

/-- mirrors sizing.py:159-172 -/
def quantityReasonsIn (request : EntrySizingRequest) (config : StrategyConfig)
    (caps : SizingCaps) (quantity : ℚ) : List String :=
  (((orderedCaps config caps).filter fun c => c.2 ≤ 0).map fun c => c.1.exhausted) ++
  (if config.allowFractionalShares then
    if C.arith.mul quantity request.referencePrice < 1 then ["NOTIONAL_BELOW_MINIMUM"] else []
  else if quantity < 1 then ["QUANTITY_BELOW_ONE_SHARE"] else [])

/-- The approval of one quantity.
mirrors sizing.py:174-189 -/
def approvalIn (request : EntrySizingRequest) (config : StrategyConfig) (caps : SizingCaps)
    (quantity : ℚ) : RiskApproval :=
  let effectiveRiskFraction :=
    C.arith.mul (fractionIn C config.riskPerTradeBps) request.drawdown.newRiskMultiplier
  let positionValue := C.arith.mul quantity request.referencePrice
  { symbol := request.symbol
    quantity
    fractionalShares := config.allowFractionalShares
    stopDistance := request.stopDistance
    drawdownFraction := request.drawdown.drawdownFraction
    newRiskMultiplier := request.drawdown.newRiskMultiplier
    effectiveRiskFraction
    riskBudget := C.arith.mul request.portfolio.equity effectiveRiskFraction
    caps
    limitingCaps :=
      ((orderedCaps config caps).filter fun c => c.2 = minimumCap config caps).map Prod.fst
    projectedPositionValue :=
      C.arith.add request.portfolio.committedSymbolMarketValue positionValue
    projectedGrossExposure := C.arith.add request.portfolio.committedGrossExposure positionValue
    projectedOpenRisk := C.arith.add request.portfolio.committedOpenRisk
      (C.arith.mul quantity request.stopDistance) }

/-- mirrors sizing.py:156-189 -/
def sizeWithCapsIn (request : EntrySizingRequest) (config : StrategyConfig) (caps : SizingCaps) :
    Except RiskError RiskSizingResult := do
  let quantity ← quantizeQuantityIn C (minimumCap config caps) config
  if quantityReasonsIn C request config caps quantity ≠ [] then
    return rejected request (quantityReasonsIn C request config caps quantity) (some caps)
  else return .approval (approvalIn C request config caps quantity)

/-- mirrors sizing.py:80-189 -/
def sizeEntryIn (request : EntrySizingRequest) (config : StrategyConfig) :
    Except RiskError RiskSizingResult :=
  let portfolio := request.portfolio
  if invalidInputReasons request ≠ [] then
    .ok (rejected request (invalidInputReasons request))
  else if request.drawdown.entryHalted then .ok (rejected request ["DRAWDOWN_ENTRY_HALT"])
  else if portfolio.isNewPosition ∧ config.maxPositions ≤ portfolio.committedPositionCount then
    .ok (rejected request ["POSITION_LIMIT_REACHED"])
  else if ¬ portfolio.isNewPosition ∧ ¬ config.allowPyramiding then
    .ok (rejected request ["PYRAMIDING_DISABLED"])
  else if config.volatilityTargetBps = 0 then
    sizeWithCapsIn C request config (sizingCapsIn C request config none)
  else match request.realizedVolatility with
    | none => .ok (rejected request ["REALIZED_VOLATILITY_UNAVAILABLE"])
    | some volatility =>
      if volatility ≤ 0 then .ok (rejected request ["REALIZED_VOLATILITY_UNAVAILABLE"])
      else sizeWithCapsIn C request config (sizingCapsIn C request config (some volatility))

end Model

/-- `quantize` in the interpreter's context is the one of the repository's arithmetic. -/
theorem quantizeQuantityIn_decimal (quantity : ℚ) (config : StrategyConfig) :
    quantizeQuantityIn .decimal quantity config = quantizeQuantity quantity config := by
  unfold quantizeQuantityIn quantizeQuantity Context.decimal; split
  · by_cases h : (⌊quantity * 10 ^ 6⌋).natAbs < 10 ^ 28
    · simp only [h, decide_true, if_true]
    · simp only [h, decide_false, if_false, Bool.false_eq_true]
  · rfl

theorem sizeWithCapsIn_decimal (request : EntrySizingRequest) (config : StrategyConfig)
    (caps : SizingCaps) :
    sizeWithCapsIn .decimal request config caps = sizeWithCaps request config caps := by
  unfold sizeWithCapsIn; rw [quantizeQuantityIn_decimal]; rfl

/-- **Two arithmetics, one program.** -/
theorem sizeEntryIn_decimal (request : EntrySizingRequest) (config : StrategyConfig) :
    sizeEntryIn .decimal request config = sizeEntry request config := by
  unfold sizeEntryIn sizeEntry; simp only [sizeWithCapsIn_decimal]; rfl

/-! ## Requests that reach the caps -/

/-- The volatility the caps are computed with: none without a target. -/
def usedVolatility (request : EntrySizingRequest) (config : StrategyConfig) : Option ℚ :=
  if config.volatilityTargetBps = 0 then none else request.realizedVolatility

/-- The request passes every check that comes before the caps. -/
structure Ready (request : EntrySizingRequest) (config : StrategyConfig) : Prop where
  valid : invalidInputReasons request = []
  running : request.drawdown.entryHalted = false
  slot : request.portfolio.isNewPosition = true →
    request.portfolio.committedPositionCount < config.maxPositions
  pyramid : request.portfolio.isNewPosition = false → config.allowPyramiding = true
  volatility : config.volatilityTargetBps ≠ 0 → ∃ v, request.realizedVolatility = some v ∧ 0 < v

section Laws
variable {C : Context} {request : EntrySizingRequest} {config : StrategyConfig}

variable (C request config) in
theorem sizeEntryIn_cases :
    (Ready request config ∧ sizeEntryIn C request config = sizeWithCapsIn C request config
        (sizingCapsIn C request config (usedVolatility request config))) ∨ (¬ Ready request config ∧
        ∃ reasons, sizeEntryIn C request config = .ok (rejected request reasons)) := by
  unfold sizeEntryIn; by_cases hvalid : invalidInputReasons request ≠ []
  · exact .inr ⟨fun h => hvalid h.valid, _, if_pos hvalid⟩
  rw [if_neg hvalid]; by_cases hhalt : request.drawdown.entryHalted = true
  · exact .inr ⟨fun h => by simp [h.running] at hhalt, _, if_pos hhalt⟩
  rw [if_neg hhalt]
  by_cases hslot : request.portfolio.isNewPosition = true ∧
      config.maxPositions ≤ request.portfolio.committedPositionCount
  · exact .inr ⟨fun h => absurd (h.slot hslot.1) (not_lt.2 hslot.2), _, if_pos hslot⟩
  rw [if_neg hslot]
  by_cases hpyramid : ¬ request.portfolio.isNewPosition = true ∧ ¬ config.allowPyramiding = true
  · exact .inr ⟨fun h => hpyramid.2 (h.pyramid (by simpa using hpyramid.1)), _, if_pos hpyramid⟩
  rw [if_neg hpyramid]
  have hready : (config.volatilityTargetBps ≠ 0 →
      ∃ v, request.realizedVolatility = some v ∧ 0 < v) → Ready request config := by
    intro hvol; refine ⟨not_not.1 hvalid, by simpa using hhalt, ?_, ?_, hvol⟩
    · intro hnew; by_contra hfull; exact hslot ⟨hnew, not_lt.1 hfull⟩
    · intro hheld; by_contra hno; exact hpyramid ⟨by simp [hheld], hno⟩
  by_cases htarget : config.volatilityTargetBps = 0
  · refine .inl ⟨hready fun h => absurd htarget h, ?_⟩
    rw [if_pos htarget, usedVolatility, if_pos htarget]
  rw [if_neg htarget]
  cases hv : request.realizedVolatility with
  | none =>
    refine .inr ⟨fun h => ?_, _, rfl⟩
    obtain ⟨v, hsome, -⟩ := h.volatility htarget; simp [hv] at hsome
  | some v =>
    by_cases hpos : v ≤ 0
    · refine .inr ⟨fun h => ?_, _, if_pos hpos⟩
      obtain ⟨w, hsome, hw⟩ := h.volatility htarget
      rw [hv, Option.some.injEq] at hsome
      exact absurd hw (not_lt.2 (hsome ▸ hpos))
    · refine .inl ⟨hready fun _ => ⟨v, hv, not_le.1 hpos⟩, ?_⟩; dsimp only
      rw [if_neg hpos, usedVolatility, if_neg htarget, hv]

theorem sizeEntryIn_ready (h : Ready request config) :
    sizeEntryIn C request config = sizeWithCapsIn C request config
      (sizingCapsIn C request config (usedVolatility request config)) := by
  rcases sizeEntryIn_cases C request config with
    ⟨-, heq⟩ | ⟨hnot, -⟩
  · exact heq
  · exact absurd h hnot

theorem sizeEntryIn_approval {a : RiskApproval}
    (h : sizeEntryIn C request config = .ok (.approval a)) :
    Ready request config ∧ sizeWithCapsIn C request config
      (sizingCapsIn C request config (usedVolatility request config)) = .ok (.approval a) := by
  rcases sizeEntryIn_cases C request config with
    ⟨hready, heq⟩ | ⟨-, reasons, heq⟩
  · exact ⟨hready, heq ▸ h⟩
  · rw [heq] at h; cases h

/-! ## Quantities -/

/-- One quantum of the configured precision. -/
def lot (config : StrategyConfig) : ℚ := if config.allowFractionalShares then 1 / 10 ^ 6 else 1

/-- The number of lots a cap has room for. -/
def lots (config : StrategyConfig) (cap : ℚ) : ℤ := ⌊cap / lot config⌋

theorem lot_pos (config : StrategyConfig) : 0 < lot config := by
  unfold lot; split <;> norm_num

theorem lots_mul_le (config : StrategyConfig) (cap : ℚ) : lots config cap * lot config ≤ cap := by
  rw [← le_div_iff₀ (lot_pos config)]; exact Int.floor_le _

theorem lt_lots_mul (config : StrategyConfig) (cap : ℚ) :
    cap < lots config cap * lot config + lot config := by
  have h : cap / lot config < lots config cap + 1 := Int.lt_floor_add_one _
  rw [div_lt_iff₀ (lot_pos config), add_mul, one_mul] at h; exact h

theorem lots_mono (config : StrategyConfig) {cap cap' : ℚ} (h : cap ≤ cap') :
    lots config cap * lot config ≤ lots config cap' * lot config := by
  have hfloor : lots config cap ≤ lots config cap' :=
    Int.floor_le_floor (div_le_div_of_nonneg_right h (lot_pos config).le)
  exact mul_le_mul_of_nonneg_right (by exact_mod_cast hfloor) (lot_pos config).le

theorem quantizeQuantityIn_exact (quantity : ℚ) (config : StrategyConfig) :
    quantizeQuantityIn .exact quantity config = .ok (lots config quantity * lot config) := by
  unfold quantizeQuantityIn lots lot
  by_cases hfractional : config.allowFractionalShares
  · simp only [hfractional, if_true, Context.exact, div_div_eq_mul_div, div_one, mul_one_div]
  · simp only [hfractional, if_false, Bool.false_eq_true, div_one, mul_one]

/-- What a quantity has to reach, besides positive caps. -/
def Enough (request : EntrySizingRequest) (config : StrategyConfig) (quantity : ℚ) : Prop :=
  if config.allowFractionalShares then 1 ≤ quantity * request.referencePrice else 1 ≤ quantity

theorem quantityReasonsIn_nil {caps : SizingCaps} {quantity : ℚ} :
    quantityReasonsIn .exact request config caps quantity = [] ↔
      (∀ c ∈ orderedCaps config caps, 0 < c.2) ∧ Enough request config quantity := by
  unfold quantityReasonsIn Enough
  rw [List.append_eq_nil_iff, List.map_eq_nil_iff, List.filter_eq_nil_iff]
  refine and_congr (by simp) ?_; split
  · show (if quantity * request.referencePrice < 1 then _ else _) = _ ↔ _; simp
  · rw [ite_eq_right_iff, ← not_lt]; simp

theorem sizeWithCapsIn_exact (request : EntrySizingRequest) (config : StrategyConfig)
    (caps : SizingCaps) :
    let quantity := lots config (minimumCap config caps) * lot config
    sizeWithCapsIn .exact request config caps = .ok
      (if quantityReasonsIn .exact request config caps quantity ≠ [] then
        rejected request (quantityReasonsIn .exact request config caps quantity) (some caps)
      else .approval (approvalIn .exact request config caps quantity)) := by
  unfold sizeWithCapsIn
  rw [quantizeQuantityIn_exact]
  dsimp only [bind, Except.bind]
  split <;> rfl

/-- Over given caps the approval is the one of the lots the smallest has room for. -/
theorem sizeWithCapsIn_approval {caps : SizingCaps} {a : RiskApproval} :
    sizeWithCapsIn .exact request config caps = .ok (.approval a) ↔
      (∀ c ∈ orderedCaps config caps, 0 < c.2) ∧
        Enough request config (lots config (minimumCap config caps) * lot config) ∧
        a = approvalIn .exact request config caps
          (lots config (minimumCap config caps) * lot config) := by
  rw [sizeWithCapsIn_exact, ← and_assoc, ← quantityReasonsIn_nil, Except.ok.injEq]
  split
  · rename_i hreasons
    exact iff_of_false (fun h => by cases h) fun h => hreasons h.1
  · rename_i hreasons; rw [RiskSizingResult.approval.injEq]
    exact ⟨fun h => ⟨not_not.1 hreasons, h.symm⟩, fun h => h.2.symm⟩

end Laws
end Quantbot.L3.Risk
