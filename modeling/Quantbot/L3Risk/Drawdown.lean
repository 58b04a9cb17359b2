import Quantbot.Core.DecimalSteps
import Quantbot.L3Execution.Coordinator
import Quantbot.L3Risk.SizingLaws

/-!
# The drawdown policy and the order gate

`risk/drawdown.py`, `risk/gates.py` and the trading safety of `config.py`. Amounts are
decimal; `Threshold` comparisons do not round.

* `deeperNeverRiskier_iff`: a deeper drawdown is never riskier, and nothing is entered while
  liquidation is required, exactly under the configurations without a halt floor;
* `halt_floor_riskier`: with a floor above a shallower tier's multiplier the deeper drawdown
  gets the larger one, and an entry is sized and let through while liquidation is required.
-/
namespace Quantbot.L3.Risk

open Core L1

/-! ## The policy -/

inductive DrawdownInputError
  | currentEquity | previousHighWater | highWaterUnavailable
deriving DecidableEq, Repr

def DrawdownInputError.message : DrawdownInputError → String
  | .currentEquity => "current_equity must be finite and nonnegative"
  | .previousHighWater => "previous_high_water must be finite and positive"
  | .highWaterUnavailable => "high-water equity is unavailable"

variable {bps : ℕ}

theorem fraction_eq (h : bps ≤ 10000) : fraction bps = bps / 10000 := by
  have hle : (bps : ℚ) ≤ 10000 := by exact_mod_cast h
  apply Decimal.div_exact (k := 4)
  · exact ⟨bps, by norm_num⟩
  · rw [abs_of_nonneg (by positivity)]; linarith

theorem fraction_nonneg (h : bps ≤ 10000) : 0 ≤ fraction bps := by
  rw [fraction_eq h]; positivity

theorem fraction_mono {a b : ℕ} (h : a ≤ b) (hb : b ≤ 10000) : fraction a ≤ fraction b := by
  have hle : (a : ℚ) ≤ b := by exact_mod_cast h
  rw [fraction_eq (h.trans hb), fraction_eq hb]; linarith

theorem fraction_le_one (h : bps ≤ 10000) : fraction bps ≤ 1 :=
  (fraction_mono h le_rfl).trans_eq (by rw [fraction_eq le_rfl]; norm_num)

section Policy
variable (config : StrategyConfig)

/-- `drawdown >= threshold`, threshold by threshold. -/
def reached (drawdown : ℚ) (i : Fin 4) : Bool :=
  fraction (config.drawdownThresholdsBps i) ≤ drawdown

/-- How many thresholds a drawdown has reached. -/
def tier (drawdown : ℚ) : Fin 5 :=
  ⟨(List.finRange 4).countP (reached config drawdown),
    Nat.lt_succ_of_le (List.countP_le_length.trans_eq List.length_finRange)⟩

/-- The halt is replaced by trading on at reduced size. -/
def throttled (drawdown : ℚ) : Bool :=
  reached config drawdown 2 && decide (0 < fraction config.drawdownHaltFloorBps)

/-- mirrors drawdown.py:34-46 -/
def riskMultiplier (drawdown : ℚ) : ℚ :=
  let multiplier := fraction (config.drawdownMultipliersBps (tier config drawdown))
  if throttled config drawdown then max multiplier (fraction config.drawdownHaltFloorBps)
  else multiplier

theorem riskMultiplier_nonneg (drawdown : ℚ) : 0 ≤ riskMultiplier config drawdown := by
  have h := fraction_nonneg (config.multipliers_le (tier config drawdown))
  unfold riskMultiplier; split
  · exact h.trans (le_max_left _ _)
  · exact h

theorem riskMultiplier_le_one (drawdown : ℚ) : riskMultiplier config drawdown ≤ 1 := by
  have h := fraction_le_one (config.multipliers_le (tier config drawdown))
  unfold riskMultiplier; split
  · exact max_le h (fraction_le_one config.drawdownHaltFloorBps_le)
  · exact h

/-- mirrors drawdown.py:48-55 -/
def stateFor (currentEquity highWater drawdown : ℚ) : DrawdownState where
  currentEquity := currentEquity
  highWaterEquity := highWater
  drawdownFraction := drawdown
  newRiskMultiplier := riskMultiplier config drawdown
  entryHalted := reached config drawdown 2 && !throttled config drawdown
  liquidationRequired := reached config drawdown 3
  multiplier_nonneg := riskMultiplier_nonneg config drawdown
  multiplier_le := riskMultiplier_le_one config drawdown

end Policy

/-- mirrors drawdown.py:15-55 -/
def calculateDrawdown (currentEquity : ℚ) (previousHighWater : Option ℚ)
    (config : StrategyConfig) : Except DrawdownInputError DrawdownState :=
  if currentEquity < 0 then .error .currentEquity
  else if previousHighWater.any (· ≤ 0) then .error .previousHighWater
  else
    let highWater := max (previousHighWater.getD currentEquity) currentEquity
    if highWater ≤ 0 then .error .highWaterUnavailable
    else .ok (stateFor config currentEquity highWater
      (Decimal.div (Decimal.sub highWater currentEquity) highWater))

/-! ## Trading safety -/

inductive BrokerProvider
  | alpaca | tradier | ibkr
deriving DecidableEq, Repr

def BrokerProvider.value : BrokerProvider → String
  | .alpaca => "alpaca"
  | .tradier => "tradier"
  | .ibkr => "ibkr"

/-- The values of `BrokerEnvironment` and of `TradingMode`. -/
inductive BrokerEnvironment
  | paper | live
deriving DecidableEq, Repr

def BrokerEnvironment.value : BrokerEnvironment → String
  | .paper => "PAPER"
  | .live => "LIVE"

/-- mirrors config.py:11-45 -/
structure Settings where
  brokerProvider : BrokerProvider := .alpaca
  tradingMode : BrokerEnvironment := .paper
  brokerEnvironment : BrokerEnvironment := .paper
  expectedAccountId : Option String := none
  alpacaPaperApiKey : Option String := none
  alpacaPaperApiSecret : Option String := none
  alpacaLiveApiKey : Option String := none
  alpacaLiveApiSecret : Option String := none
  liveTradingAcknowledged : Bool := false
  killSwitch : Bool := true
  marketDataHealthy : Bool := false
  brokerHealthy : Bool := false
  riskEngineHealthy : Bool := false
  reconciliationSuccessful : Bool := false

/-- mirrors config.py:176-179 -/
def completePair (key secret : Option String) : Bool :=
  key.any (strip · ≠ "") && secret.any (strip · ≠ "")

/-- mirrors config.py:168-173 -/
def Settings.selectedCredentialsComplete (settings : Settings) : Bool :=
  settings.brokerProvider = .alpaca &&
    match settings.tradingMode with
    | .live => completePair settings.alpacaLiveApiKey settings.alpacaLiveApiSecret
    | .paper => completePair settings.alpacaPaperApiKey settings.alpacaPaperApiSecret

/-- mirrors config.py:143-165 -/
def Settings.tradingAuthorityReasons (settings : Settings) (reportedAccountId : Option String) :
    List String :=
  (if settings.brokerEnvironment ≠ settings.tradingMode then ["BROKER_ENVIRONMENT_MISMATCH"]
    else []) ++
  (if settings.tradingMode = .live ∧ ¬ settings.liveTradingAcknowledged then
    ["LIVE_TRADING_NOT_ACKNOWLEDGED"] else []) ++
  (match settings.expectedAccountId with
    | none => ["EXPECTED_ACCOUNT_ID_MISSING"]
    | some expected =>
      match reportedAccountId with
      | none => ["ACCOUNT_VERIFICATION_UNAVAILABLE"]
      | some reported =>
        if strip reported = "" then ["ACCOUNT_VERIFICATION_UNAVAILABLE"]
        else if strip reported ≠ expected then ["ACCOUNT_MISMATCH"] else []) ++
  (if settings.selectedCredentialsComplete then [] else ["CREDENTIALS_INCOMPLETE"])

/-- mirrors config.py:117-140 -/
def Settings.tradingSafetyReasons (settings : Settings) (reportedAccountId : Option String) :
    List String :=
  (if settings.killSwitch then ["KILL_SWITCH_ENGAGED"] else []) ++
  (if settings.brokerHealthy then [] else ["BROKER_UNHEALTHY"]) ++
  (if settings.marketDataHealthy then [] else ["MARKET_DATA_UNHEALTHY"]) ++
  (if settings.riskEngineHealthy then [] else ["RISK_ENGINE_UNHEALTHY"]) ++
  (if settings.reconciliationSuccessful then [] else ["RECONCILIATION_REQUIRED"]) ++
  settings.tradingAuthorityReasons reportedAccountId

/-! ## The gate -/

/-- mirrors models.py:197-202 -/
structure OrderGateDecision where
  purpose : OrderPurpose
  allowed : Bool
  reasons : List String
  brokerLabel : String
  environmentLabel : String
deriving DecidableEq, Repr

/-- The vetoes are the reasons of their decision, when there is one.
mirrors gates.py:20-73 -/
def evaluateOrderGate (settings : Settings) (reportedAccountId : Option String)
    (purpose : OrderPurpose) (durableKillSwitchEngaged marketEligible : Bool)
    (drawdown : Option DrawdownState) (riskApproved : Option Bool)
    (vetoes : Option (List String)) : OrderGateDecision :=
  let safety :=
    if purpose = .entry then
      { settings with killSwitch := settings.killSwitch || durableKillSwitchEngaged
        : Settings }.tradingSafetyReasons reportedAccountId
    else settings.tradingAuthorityReasons reportedAccountId
  let policy :=
    match purpose with
    | .entry =>
      (match drawdown with
        | none => ["DRAWDOWN_STATE_UNAVAILABLE"]
        | some state => if state.entryHalted then ["DRAWDOWN_ENTRY_HALT"] else []) ++
      (if riskApproved = some true then [] else ["RISK_NOT_APPROVED"]) ++
      vetoes.getD ["PORTFOLIO_VETOES_NOT_EVALUATED"]
    | .drawdownLiquidation =>
      if drawdown.any (·.liquidationRequired) then [] else ["LIQUIDATION_NOT_REQUIRED"]
    | .strategyExit => []
  let reasons := safety ++ (if marketEligible then [] else ["MARKET_NOT_ELIGIBLE"]) ++ policy
  { purpose, allowed := reasons.isEmpty, reasons
    brokerLabel := settings.brokerProvider.value
    environmentLabel := settings.brokerEnvironment.value }

/-! ## Deeper drawdowns -/

/-- A deeper drawdown is at least as strict, and nothing is entered once liquidation is
required. -/
structure DeeperNeverRiskier (config : StrategyConfig) : Prop where
  multiplier : ∀ highWater equity equity' shallow deep,
    calculateDrawdown equity highWater config = .ok shallow →
    calculateDrawdown equity' highWater config = .ok deep →
    shallow.drawdownFraction ≤ deep.drawdownFraction →
    deep.newRiskMultiplier ≤ shallow.newRiskMultiplier
  entryHalt : ∀ highWater equity equity' shallow deep,
    calculateDrawdown equity highWater config = .ok shallow →
    calculateDrawdown equity' highWater config = .ok deep →
    shallow.drawdownFraction ≤ deep.drawdownFraction →
    shallow.entryHalted = true → deep.entryHalted = true
  liquidation : ∀ highWater equity equity' shallow deep,
    calculateDrawdown equity highWater config = .ok shallow →
    calculateDrawdown equity' highWater config = .ok deep →
    shallow.drawdownFraction ≤ deep.drawdownFraction →
    shallow.liquidationRequired = true → deep.liquidationRequired = true
  sizing : ∀ highWater equity request,
    calculateDrawdown equity highWater config = .ok request.drawdown →
    request.drawdown.liquidationRequired = true →
    ∀ approval, sizeEntry request config ≠ .ok (.approval approval)
  gate : ∀ highWater equity state settings account engaged eligible approved vetoes,
    calculateDrawdown equity highWater config = .ok state → state.liquidationRequired = true →
    (evaluateOrderGate settings account .entry engaged eligible (some state) approved
      vetoes).allowed = false

section Deeper
variable {config : StrategyConfig}

variable {state : DrawdownState} {highWater : Option ℚ}

theorem calculateDrawdown_ok {equity : ℚ}
    (h : calculateDrawdown equity highWater config = .ok state) :
    state.newRiskMultiplier = riskMultiplier config state.drawdownFraction ∧
      state.entryHalted = (reached config state.drawdownFraction 2 &&
        !throttled config state.drawdownFraction) ∧
      state.liquidationRequired = reached config state.drawdownFraction 3 := by
  unfold calculateDrawdown at h; split at h
  · cases h
  split at h
  · cases h
  dsimp only at h; split at h
  · cases h
  · cases h; exact ⟨rfl, rfl, rfl⟩

theorem reached_mono {shallow deep : ℚ} (h : shallow ≤ deep) {i : Fin 4}
    (hi : reached config shallow i = true) : reached config deep i = true := by
  simp only [reached, decide_eq_true_eq] at hi ⊢; exact hi.trans h

theorem tier_mono {shallow deep : ℚ} (h : shallow ≤ deep) : tier config shallow ≤ tier config deep :=
  List.countP_mono_left fun _ _ => reached_mono h

theorem reached_halt {drawdown : ℚ} (h : reached config drawdown 3 = true) :
    reached config drawdown 2 = true := by
  simp only [reached, decide_eq_true_eq] at h ⊢
  exact (fraction_mono (config.thresholds_increasing 2 3 (by decide)).le
    (config.thresholds_range 3).2).trans h

theorem throttled_of_floor_zero (hfloor : config.drawdownHaltFloorBps = 0) (drawdown : ℚ) :
    throttled config drawdown = false := by
  have hzero : fraction 0 = 0 := by rw [fraction_eq (Nat.zero_le _)]; norm_num
  simp [throttled, hfloor, hzero]

theorem halted_of_liquidation (hfloor : config.drawdownHaltFloorBps = 0) {equity : ℚ}
    (h : calculateDrawdown equity highWater config = .ok state)
    (hliquidation : state.liquidationRequired = true) : state.entryHalted = true := by
  obtain ⟨-, hhalted, hrequired⟩ := calculateDrawdown_ok h
  rw [hhalted, throttled_of_floor_zero hfloor, reached_halt (hrequired ▸ hliquidation)]
  rfl

theorem sizeEntry_halted {request : EntrySizingRequest}
    (h : request.drawdown.entryHalted = true) (approval : RiskApproval) :
    sizeEntry request config ≠ .ok (.approval approval) := by
  intro happroved; rw [← sizeEntryIn_decimal] at happroved
  have := (sizeEntryIn_approval happroved).1.running; simp [h] at this

theorem gate_halted (h : state.entryHalted = true) (settings : Settings) (account : Option String)
    (engaged eligible : Bool) (approved : Option Bool) (vetoes : Option (List String)) :
    (evaluateOrderGate settings account .entry engaged eligible (some state) approved
      vetoes).allowed = false := by
  simp [evaluateOrderGate, h]

theorem DeeperNeverRiskier.of_floor_zero (hfloor : config.drawdownHaltFloorBps = 0) :
    DeeperNeverRiskier config := by
  refine ⟨?_, ?_, ?_, ?_, ?_⟩
  · intro highWater equity equity' shallow deep hs hd hle
    rw [(calculateDrawdown_ok hs).1, (calculateDrawdown_ok hd).1]
    unfold riskMultiplier
    simp only [throttled_of_floor_zero hfloor, Bool.false_eq_true, if_false]
    exact fraction_mono (config.multipliers_nonincreasing _ _ (tier_mono hle))
      (config.multipliers_le _)
  · intro highWater equity equity' shallow deep hs hd hle hhalted
    rw [(calculateDrawdown_ok hs).2.1, throttled_of_floor_zero hfloor] at hhalted
    rw [(calculateDrawdown_ok hd).2.1, throttled_of_floor_zero hfloor]
    simp only [Bool.not_false, Bool.and_true] at hhalted ⊢
    exact reached_mono hle hhalted
  · intro highWater equity equity' shallow deep hs hd hle hrequired
    rw [(calculateDrawdown_ok hs).2.2] at hrequired
    rw [(calculateDrawdown_ok hd).2.2]; exact reached_mono hle hrequired
  · intro highWater equity request h hrequired
    exact sizeEntry_halted (halted_of_liquidation hfloor h hrequired)
  · intro highWater equity state settings account engaged eligible approved vetoes h hrequired
    exact gate_halted (halted_of_liquidation hfloor h hrequired) ..

theorem calculateDrawdown_lost (config : StrategyConfig) :
    calculateDrawdown 0 (some 1) config = .ok (stateFor config 0 1 1) := by
  have hdrawdown : Decimal.div (Decimal.sub (max 1 0) 0) (max 1 0) = 1 := by decide +kernel
  unfold calculateDrawdown; dsimp only [Option.getD]; rw [hdrawdown]; rfl

/-- Healthy paper settings for the account `A`. -/
def readySettings : Settings :=
  { expectedAccountId := some "A", alpacaPaperApiKey := some "k", alpacaPaperApiSecret := some "s"
    killSwitch := false, marketDataHealthy := true, brokerHealthy := true
    riskEngineHealthy := true, reconciliationSuccessful := true }

theorem gate_open (h : state.entryHalted = false) :
    (evaluateOrderGate readySettings (some "A") .entry false true (some state) (some true)
      (some [])).allowed = true := by
  obtain ⟨_, _, _, _, _, _, _, _⟩ := state; cases h; rfl

/-- **Deeper is never riskier, exactly without a halt floor.** -/
theorem deeperNeverRiskier_iff (config : StrategyConfig) :
    DeeperNeverRiskier config ↔ config.drawdownHaltFloorBps = 0 := by
  refine ⟨fun h => ?_, DeeperNeverRiskier.of_floor_zero⟩; by_contra hfloor
  have hpositive : 0 < fraction config.drawdownHaltFloorBps := by
    rw [fraction_eq config.drawdownHaltFloorBps_le]
    have : (0 : ℚ) < config.drawdownHaltFloorBps := by exact_mod_cast Nat.pos_of_ne_zero hfloor
    linarith
  have hreached : ∀ i, reached config 1 i = true := by
    intro i; simpa [reached] using fraction_le_one (config.thresholds_range i).2
  have hopen : (stateFor config 0 1 1).entryHalted = false := by
    simp [stateFor, throttled, hreached, hpositive]
  have hclosed := h.gate _ _ _ readySettings (some "A") false true (some true) (some [])
    (calculateDrawdown_lost config) (hreached 3)
  rw [gate_open hopen] at hclosed; cases hclosed

end Deeper

/-- **A floor above a shallower tier.** From 12 to 20 percent the multiplier rises from a half
to three quarters; liquidation is required, yet 10 shares are approved and the gate is open. -/
theorem halt_floor_riskier :
    ¬ DeeperNeverRiskier (tieredConfig 7500 (by decide)) ∧
      (stateFor (tieredConfig 7500 (by decide)) 8800 10000 (12 / 100)).newRiskMultiplier = 1 / 2 ∧
      (stateFor (tieredConfig 7500 (by decide)) 8000 10000 (20 / 100)).newRiskMultiplier = 3 / 4 ∧
      (stateFor (tieredConfig 7500 (by decide)) 8000 10000 (20 / 100)).liquidationRequired ∧
      0 < approvedQuantity (sizeEntry
        { orderWith 500 0 with
          drawdown := stateFor (tieredConfig 7500 (by decide)) 8000 10000 (20 / 100) }
        (tieredConfig 7500 (by decide))) := by
  refine ⟨fun h => ?_, by decide +kernel, by decide +kernel, by decide +kernel, by decide +kernel⟩
  have hshallow : calculateDrawdown 8800 (some 10000) (tieredConfig 7500 (by decide)) =
      .ok (stateFor (tieredConfig 7500 (by decide)) 8800 10000
        (Decimal.div (Decimal.sub (max 10000 8800) 8800) (max 10000 8800))) := rfl
  have hdeep : calculateDrawdown 8000 (some 10000) (tieredConfig 7500 (by decide)) =
      .ok (stateFor (tieredConfig 7500 (by decide)) 8000 10000
        (Decimal.div (Decimal.sub (max 10000 8000) 8000) (max 10000 8000))) := rfl
  have hle := h.multiplier _ _ _ _ _ hshallow hdeep (by decide +kernel)
  revert hle
  decide +kernel

end Quantbot.L3.Risk
