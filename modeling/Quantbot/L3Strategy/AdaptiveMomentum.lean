import Quantbot.Core.Table
import Quantbot.L3Strategy.Indicators
import Quantbot.L3Strategy.Sessions

/-!
# Roster construction and daily decisions

`strategy/adaptive_momentum.py:193-526` and the identity check of `strategy/identity.py`.
`validateHistory`, `rankSymbol` and `decideSignal` are the parts of the two functions that
do not look at the session sequence.
-/
namespace Quantbot.L3.Strategy

open Core L1

/-! ## Value objects -/

/-- mirrors adaptive_momentum.py:193-197 -/
inductive SignalAction
  | enter | exit | hold | ineligible
deriving DecidableEq, Repr

/-- mirrors adaptive_momentum.py:200-223 -/
structure SignalDecision where
  symbol : String
  action : SignalAction
  reasons : List String
  evaluatedAt : Int
  eligibleFrom : Int
  momentum : Option ℚ := none
  sma200 : Option ℚ := none
  entryChannel : Option ℚ := none
  exitChannel : Option ℚ := none
  atr : Option ℚ := none
  regimeOn : Bool := false
  activeRoster : Bool
  strategyId : String
  configurationHash : String
  inputCutoff : Int
  barSetHash : String
  assetClose : Option ℚ
  spyClose : Option ℚ
  spySma200 : Option ℚ
  highWaterSinceEntry : Option ℚ := none
  priorActiveStop : Option ℚ
  initialStopDistance : Option ℚ := none
  trailingStop : Option ℚ := none
deriving DecidableEq, Repr

/-- mirrors adaptive_momentum.py:226-243 -/
structure PositionContext where
  symbol : String
  enteredAt : Int
  initialStop : ℚ
  activeStop : ℚ
  tranche : ℕ := 0
  initialStop_pos : 0 < initialStop
  activeStop_pos : 0 < activeStop

/-- The two digests: of a configuration and of bars through a cutoff.
mirrors identity.py:75-77,117-145 -/
structure Digests where
  configuration : StrategyConfig → String
  barSet : List (String × List Bar) → Int → String

/-- Histories by symbol. -/
abbrev Histories := Table (String × List Bar) Prod.fst

/-! ## Histories -/

/-- `history must contain only …` and strictly increasing stamps, from the stamp before.
mirrors adaptive_momentum.py:255-262 -/
def validateHistory (expectedSymbol : String) : Option Int → List Bar → Except String Unit
  | _, [] => .ok ()
  | previous, bar :: history =>
    if bar.symbol ≠ expectedSymbol then
      .error ("history must contain only " ++ expectedSymbol ++ " bars")
    else if previous.any fun p => bar.timestamp ≤ p then
      .error "history bars must be strictly increasing without duplicates"
    else validateHistory expectedSymbol (some bar.timestamp) history

/-- mirrors adaptive_momentum.py:251-252 -/
def sliced (history : List Bar) (cutoff : Int) : List Bar :=
  history.filter fun bar => bar.timestamp ≤ cutoff

/-! ## The roster -/

/-- One round of the ranking loop: a ranking, or a symbol that is passed over.
mirrors adaptive_momentum.py:316-337 -/
def rankSymbol (A : Arith) (config : StrategyConfig) (evaluationAt : Int) (symbol : String)
    (history : List Bar) : Except String (Option Ranking) := do
  validateHistory symbol none history
  let bars := sliced history evaluationAt
  match bars.getLast? with
  | none => .error ("history for " ++ symbol ++ " must be fresh through evaluation_at")
  | some last =>
    if last.timestamp ≠ evaluationAt then
      .error ("history for " ++ symbol ++ " must be fresh through evaluation_at")
    else
      match momentum121 A bars config.momentumLong config.momentumSkip,
          sma A bars config.trendPeriod with
      | some momentum, some trend =>
        -- the trend gate per session leaves the trend to the daily decision
        let belowTrend := last.close ≤ trend ∧ ¬ config.trendGatePerSession
        if (config.positiveMomentumRequired ∧ momentum ≤ 0) ∨ belowTrend then .ok none
        else .ok (some ⟨symbol, momentum, last.close, trend⟩)
      | _, _ => .ok none

/-- The order of the rankings: momentum falling, then the symbol. -/
def Ranking.Before (a b : Ranking) : Prop :=
  b.momentum < a.momentum ∨ (a.momentum = b.momentum ∧ a.symbol ≤ b.symbol)
deriving Decidable

/-- `sorted(symbols)` as Python prints it. -/
def listText (symbols : List String) : String :=
  "[" ++ ", ".intercalate ((symbols.insertionSort (· ≤ ·)).map fun s => "'" ++ s ++ "'") ++ "]"

/-- The universe check and the ranking loop.
mirrors adaptive_momentum.py:308-339 -/
def rankUniverse (A : Arith) (config : StrategyConfig) (evaluationAt : Int)
    (histories : Histories) : Except String (List Ranking) :=
  let provided := histories.rows.map Prod.fst
  let missing := config.symbols.filter fun s => s ∉ provided
  let unexpected := provided.filter fun s => s ∉ config.symbols
  if missing ≠ [] ∨ unexpected ≠ [] then
    .error ("histories must exactly match strategy universe: missing=" ++ listText missing ++
      ", unexpected=" ++ listText unexpected)
  else do
    let rankings ← config.symbols.mapM fun symbol =>
      rankSymbol A config evaluationAt symbol (((histories.get? symbol).map Prod.snd).getD [])
    pure (((rankings.filterMap id).insertionSort Ranking.Before).take config.rosterSize)

/-- The rebalance rule and the end of the window it gives.
mirrors adaptive_momentum.py:287-306 -/
def rosterExpiry (config : StrategyConfig) (seq : XNYSSessionSequence) (evaluationIndex : ℕ)
    (tranche : Int) : Except String Int :=
  if config.rebalanceTranches = 1 then
    if (seq.sessions[evaluationIndex]?).map XNYSSession.month =
        (seq.sessions[evaluationIndex + 1]?).map XNYSSession.month then
      .error "evaluation_at must be the final XNYS session of its month"
    else seq.rosterExpiryAfter (evaluationIndex + 1)
  else do
    let schedule ← seq.trancheScheduleMap config.rebalanceTranches
    if (getItem schedule evaluationIndex).map Int.ofNat ≠ some tranche then
      throw ("evaluation_at is not tranche " ++ toString tranche ++ "'s rebalance session")
    else seq.trancheExpiryAfter evaluationIndex tranche config.rebalanceTranches

/-- What `MonthlyRoster` checks; the tranche is left at its default.
mirrors adaptive_momentum.py:340-347 -/
def newRoster (calendar : TradingCalendar) (evaluatedAt effectiveAt expiresAt : Int)
    (rankings : List Ranking) : Except String MonthlyRoster :=
  if hnodup : (rankings.map Ranking.symbol).Nodup then
    if hevaluated : evaluatedAt < effectiveAt then
      if heffective : effectiveAt < expiresAt then
        .ok {
          calendar := calendar
          evaluatedAt := evaluatedAt
          effectiveAt := effectiveAt
          expiresAt := expiresAt
          symbols := rankings.map Ranking.symbol
          rankings := rankings
          symbols_nodup := hnodup
          evaluated_lt := hevaluated
          effective_lt := heffective }
      else .error "expires_at must be after effective_at"
    else .error "effective_at must be after evaluated_at"
  else .error "roster symbols must be unique"

/-- mirrors adaptive_momentum.py:265-347 -/
def buildMonthlyRoster (A : Arith) (histories : Histories) (evaluationAt effectiveAt : Int)
    (config : StrategyConfig) (seq : XNYSSessionSequence) (tranche : Int) :
    Except String MonthlyRoster :=
  if effectiveAt ≤ evaluationAt then .error "effective_at must be after evaluation_at"
  else if seq.calendar ≠ config.calendar then
    .error "session calendar must match strategy configuration"
  else do
    let evaluationIndex ← seq.transitionIndex evaluationAt effectiveAt
    let expiresAt ← rosterExpiry config seq evaluationIndex tranche
    let ranked ← rankUniverse A config evaluationAt histories
    newRoster config.calendar evaluationAt effectiveAt expiresAt ranked

/-! ## The daily decision -/

/-- mirrors identity.py:80-84 -/
def strategyIdFor (digests : Digests) (config : StrategyConfig) : String :=
  "adaptive-momentum-v" ++ (config.version.splitOn ".").headD "" ++ "-" ++
    String.ofList ((digests.configuration config).toList.take 16)

/-- mirrors identity.py:87-95 -/
def validateStrategyIdentity (digests : Digests) (config : StrategyConfig)
    (identity : StrategyIdentity) : Except String Unit :=
  if identity.configurationHash ≠ digests.configuration config ∨
      identity.version ≠ config.version ∨
      identity.strategyId ≠ strategyIdFor digests config then
    .error "strategy identity does not match configuration"
  else .ok ()

/-- The reasons against an entry, in the source's order. -/
def entryObjections (config : StrategyConfig) (activeRoster regimeOn : Bool)
    (close momentum trend entryChannel : ℚ) : List String :=
  let components := config.components
  (if components.momentum ∧ ¬ activeRoster then ["NOT_IN_ACTIVE_ROSTER"] else []) ++
  (if components.marketRegime ∧ config.marketRegimeBlocksEntriesOnly ∧ ¬ regimeOn then
    ["REGIME_OFF"] else []) ++
  (if components.assetTrend ∧ close ≤ trend then ["TREND_FILTER_FAILED"] else []) ++
  (if components.momentum ∧ config.positiveMomentumRequired ∧ momentum ≤ 0 then
    ["NON_POSITIVE_MOMENTUM"] else []) ++
  (if components.donchianEntry ∧ close ≤ entryChannel then ["ENTRY_CHANNEL_NOT_BROKEN"] else [])

/-- The reasons for an exit, in the source's order. -/
def exitReasons (config : StrategyConfig) (activeRoster : Bool) (close : ℚ)
    (trend exitChannel : Option ℚ) (trailingStop : ℚ) : List String :=
  let components := config.components
  (if components.rosterExit ∧ ¬ activeRoster then ["ROSTER_EXIT"] else []) ++
  (if components.assetTrend ∧ trend.any (close ≤ ·) then ["TREND_EXIT"] else []) ++
  (if components.donchianExit ∧ exitChannel.any (close < ·) then ["DONCHIAN_EXIT"] else []) ++
  (if components.trailingStop ∧ close ≤ trailingStop then ["TRAILING_STOP_EXIT"] else [])

/-- The bar of the cutoff itself, when the series is fresh. -/
def currentBar (bars : List Bar) (evaluationAt : Int) : Option Bar :=
  bars.getLast?.filter fun bar => bar.timestamp = evaluationAt

/-- The decision for a symbol that is not held, over what was measured.
mirrors adaptive_momentum.py:445-484 -/
def entrySignal (A : Arith) (config : StrategyConfig) (measured : SignalDecision) (close : ℚ) :
    SignalDecision :=
  match measured.momentum, measured.sma200, measured.spySma200, measured.entryChannel,
      measured.exitChannel, measured.atr with
  | some momentum, some trend, some _, some entryChannel, some _, some atr =>
    let failed := entryObjections config measured.activeRoster measured.regimeOn close momentum trend
      entryChannel
    if failed = [] then
      { measured with
        action := .enter, reasons := ["ENTRY_BREAKOUT"]
        initialStopDistance := some (A.mul config.initialStopAtr atr) }
    else { measured with action := .hold, reasons := failed }
  | _, _, _, _, _, _ => { measured with reasons := ["WARMUP_INCOMPLETE"] }

/-- The stop of a held position.
mirrors adaptive_momentum.py:486-490 -/
def trailingStop (A : Arith) (config : StrategyConfig) (held : PositionContext)
    (highWater atr : Option ℚ) : ℚ :=
  max (max held.initialStop held.activeStop) (match highWater, atr with
    | some highWater, some atr => A.sub highWater (A.mul config.trailingStopAtr atr)
    | _, _ => held.initialStop)

/-- The decision for a held symbol, over what was measured.
mirrors adaptive_momentum.py:486-526 -/
def exitSignal (A : Arith) (config : StrategyConfig) (measured : SignalDecision) (close : ℚ)
    (held : PositionContext) (highWater : Option ℚ) : SignalDecision :=
  let stop := trailingStop A config held highWater measured.atr
  let reasons := exitReasons config measured.activeRoster close measured.sma200
    measured.exitChannel stop
  let closing := { measured with highWaterSinceEntry := highWater, trailingStop := some stop }
  if measured.sma200.isNone || measured.exitChannel.isNone || measured.atr.isNone then
    if reasons = [] then { closing with reasons := ["EXIT_WARMUP_INCOMPLETE"] }
    else { closing with action := .exit, reasons := reasons ++ ["EXIT_WARMUP_INCOMPLETE"] }
  else if reasons = [] then { closing with action := .hold, reasons := ["POSITION_HELD"] }
  else { closing with action := .exit, reasons := reasons }

/-- What `make_decision` fills in by itself.
mirrors adaptive_momentum.py:384-434 -/
def blankDecision (A : Arith) (digests : Digests) (symbol : String) (bars spyBars : List Bar)
    (roster : MonthlyRoster) (evaluationAt nextSessionAt : Int) (config : StrategyConfig)
    (identity : StrategyIdentity) (position : Option PositionContext) : SignalDecision :=
  let spyCurrent := currentBar spyBars evaluationAt
  { symbol := symbol
    action := .ineligible
    reasons := ["STALE_OR_MISSING_BAR"]
    evaluatedAt := evaluationAt
    eligibleFrom := nextSessionAt
    activeRoster := decide (symbol ∈ roster.symbols)
    strategyId := identity.strategyId
    configurationHash := identity.configurationHash
    inputCutoff := evaluationAt
    barSetHash := digests.barSet
      (if symbol = config.regimeSymbol then [(config.regimeSymbol, spyBars)]
      else [(symbol, bars), (config.regimeSymbol, spyBars)]) evaluationAt
    assetClose := (currentBar bars evaluationAt).map Bar.close
    spyClose := spyCurrent.map Bar.close
    spySma200 := if spyCurrent.isSome then sma A spyBars config.trendPeriod else none
    priorActiveStop := position.map PositionContext.activeStop }

/-- The decision, once the inputs are accepted.
mirrors adaptive_momentum.py:384-526 -/
def decideSignal (A : Arith) (digests : Digests) (symbol : String) (symbolHistory spyHistory : List Bar)
    (roster : MonthlyRoster) (evaluationAt nextSessionAt : Int) (config : StrategyConfig)
    (identity : StrategyIdentity) (position : Option PositionContext) : SignalDecision :=
  let bars := sliced symbolHistory evaluationAt
  let spyBars := sliced spyHistory evaluationAt
  let blank := blankDecision A digests symbol bars spyBars roster evaluationAt nextSessionAt config
    identity position
  match currentBar bars evaluationAt, currentBar spyBars evaluationAt with
  | some asset, some spy =>
    let measured := { blank with
      momentum := momentum121 A bars config.momentumLong config.momentumSkip
      sma200 := sma A bars config.trendPeriod
      entryChannel := donchianEntryLevel bars config.entryPeriod
      exitChannel := donchianExitLevel bars config.exitPeriod
      atr := wilderAtr A bars config.atrPeriod
      regimeOn := blank.spySma200.any (· < spy.close) }
    match position with
    | none => entrySignal A config measured asset.close
    | some held =>
      exitSignal A config measured asset.close held (highestHighSince bars held.enteredAt)
  | _, _ => blank

/-- The checks of a decision that do not look at the session sequence; the roster's own
symbols are among what they look at.
mirrors adaptive_momentum.py:372-382 -/
def checkInputs (symbolHistory spyHistory : List Bar) (roster : MonthlyRoster)
    (config : StrategyConfig) (position : Option PositionContext) : Except String String :=
  match symbolHistory with
  | [] => .error "symbol_history must not be empty"
  | first :: _ =>
    let symbol := first.symbol
    if symbol ∉ config.symbols then .error "evaluated symbol must be in strategy universe"
    else if roster.symbols.any fun s => s ∉ config.symbols then
      .error "roster symbols must be in strategy universe"
    else do
      validateHistory symbol none symbolHistory
      validateHistory config.regimeSymbol none spyHistory
      if position.any fun held => held.symbol ≠ symbol then
        throw "position symbol must match evaluated symbol"
      else pure symbol

/-- mirrors adaptive_momentum.py:350-526 -/
def evaluateSymbol (A : Arith) (digests : Digests) (symbolHistory spyHistory : List Bar)
    (roster : MonthlyRoster) (evaluationAt nextSessionAt : Int) (config : StrategyConfig)
    (identity : StrategyIdentity) (position : Option PositionContext) (seq : XNYSSessionSequence) :
    Except String SignalDecision :=
  if nextSessionAt ≤ evaluationAt then .error "next_session_at must be after evaluation_at"
  else do
    validateStrategyIdentity digests config identity
    if seq.calendar ≠ config.calendar then
      throw "session calendar must match strategy configuration"
    else
      let _ ← seq.transitionIndex evaluationAt nextSessionAt
      seq.validateRosterWindow roster nextSessionAt
      let symbol ← checkInputs symbolHistory spyHistory roster config position
      pure (decideSignal A digests symbol symbolHistory spyHistory roster evaluationAt
        nextSessionAt config identity position)

end Quantbot.L3.Strategy
