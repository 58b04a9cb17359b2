import Quantbot.L4PaperCore.EntryPolicy

/-!
# The deterministic batch prefix

`paper_core/batch.py` (`_prefix`), with `evaluate_cohort` of `selection.py` and what
`evaluate_entry` of `trader.py` does with the quantity.

A cohort's member carries the gates of `evaluate_entry` that do not look at the quantity:
`gatesBefore` and `gatesAfter` stand in the order of the source before and behind those that
do. The reservation counts, the health of the symbols and the discovery samples are read
before the loop and are inputs. `budget` is what `portfolio_budget` returns.
-/
namespace Quantbot.L4.Entry

open Core L1
open Core.Decimal (sub mul div)

/-! ## One member -/

/-- What `evaluate_entry` and `evaluate_cohort` read of an observation. -/
structure Member where
  symbol : String
  price : ℚ
  isCrypto : Bool := false
  eligibility : Option AssetEligibility := none
  gatesBefore : List String := []
  gatesAfter : List String := []
  capabilityObjections : ℚ → List String := fun _ => []
  predictionBps : Option ℚ := none
  evaluatedAt : Int
  /-- The dollar volume of the symbol's discovery sample. -/
  dollarVolume : Option ℚ := none
  price_pos : 0 < price

inductive EntryAction | buy | wait
deriving DecidableEq, Repr

/-- What a decision of the batch carries of its evaluation. -/
structure EntryDecision where
  symbol : String
  quantity : ℚ
  price : ℚ
  gates : List String
  action : EntryAction
  predictionBps : Option ℚ := none
  recordedAt : Int
  exclusions : List (String × List String) := []
deriving DecidableEq, Repr

/-- `quantity * price`. -/
def EntryDecision.notional (d : EntryDecision) : ℚ := mul d.quantity d.price

/-- `EntryReservation.stop_risk`, with the stop of `ProtectionPlan.for_decision`.
mirrors batch.py:477 -/
def EntryDecision.stopRisk (d : EntryDecision) : ℚ :=
  mul d.quantity (sub d.price (mul d.price (99 / 100)))

/-- `tuple(dict.fromkeys(...))`: each once, in order. -/
def distinct (reasons : List String) : List String := reasons.eraseDups

/-- The cohort, the model's state and the account a batch is evaluated with. -/
structure BatchInputs where
  easternHour : Int → ℕ
  config : EntryConfig
  policy : Option EntryPolicy
  account : Account
  members : List Member
  /-- `cohort_symbols`, in order. -/
  symbols : List String
  unavailable : List (String × String) := []
  /-- `session_counts`, summed over all symbols in `sessionTotal`. -/
  sessionCount : String → ℕ := fun _ => 0
  sessionTotal : ℕ := 0
  priorCount : String → ℕ := fun _ => 0
  members_nodup : (members.map (·.symbol) ++ unavailable.map (·.1)).Nodup
  members_complete : ∀ s, s ∈ members.map (·.symbol) ++ unavailable.map (·.1) ↔ s ∈ symbols

namespace BatchInputs

/-- `capability_for`.
mirrors asset_capability.py:92-93 -/
def capabilityFor (b : BatchInputs) (symbol : String) : Option AssetCapability :=
  b.config.assetCapabilities.find? (·.symbol = symbol)

/-- The arguments `evaluate_entry` calls `entry_quantity` with.
mirrors trader.py:262-272 -/
def terms (b : BatchInputs) (m : Member) (available : ℚ) : EntryTerms where
  account := b.account
  price := m.price
  policy := b.policy
  fractionable := m.eligibility.map (·.fractionable)
  config := some b.config
  availableNotional := some available
  capability := b.capabilityFor m.symbol
  eligibility := m.eligibility
  at' := some m.evaluatedAt
  price_pos := m.price_pos

/-- The gates of a crypto quantity.
mirrors trader.py:273-287 -/
def cryptoGates (b : BatchInputs) (m : Member) (quantity : ℚ) : Except EntryFault (List String) :=
  match m.isCrypto, m.eligibility with
  | true, some e => do
    let objections ← eligibilityObjections (some e) m.symbol m.evaluatedAt (some quantity) 120
      (b.policy.map (·.id))
    return objections ++
      if ∀ power ∈ b.account.nonMarginableBuyingPower, power < mul quantity m.price then
        ["CRYPTO_NON_MARGINABLE_BUYING_POWER"]
      else []
  | _, _ => .ok []

/-- The gates that compare the quantity with the account.
mirrors trader.py:289-297 -/
def moneyGates (b : BatchInputs) (m : Member) (quantity : ℚ) : List String :=
  let cost := mul quantity m.price
  (if quantity ≤ 0 ∨ mul b.account.equity (25 / 10000) < mul cost (1 / 100) then
    ["ENTRY_RISK_LIMIT"] else []) ++
  (if b.account.cash < cost ∨ mul b.account.buyingPower (95 / 100) < cost then
    ["BUYING_POWER_RESERVE"] else [])

/-- What of `evaluate_entry` depends on the money left.
mirrors trader.py:87-385 -/
def evaluateEntry (b : BatchInputs) (available : ℚ) (m : Member) :
    Except EntryFault EntryDecision := do
  let quantity ← (b.terms m available).entryQuantity b.easternHour
  let crypto ← b.cryptoGates m quantity
  let capability :=
    if (b.capabilityFor m.symbol).isSome then m.capabilityObjections quantity else []
  let gates := m.gatesBefore ++ crypto ++ capability ++ b.moneyGates m quantity ++ m.gatesAfter
  return {
    symbol := m.symbol
    quantity := quantity
    price := m.price
    gates := gates
    action := if gates = [] then .buy else .wait
    predictionBps := m.predictionBps
    recordedAt := m.evaluatedAt }

/-! ## The cohort -/

def decisionFor (decisions : List EntryDecision) (symbol : String) : Option EntryDecision :=
  decisions.find? (·.symbol = symbol)

/-- A discovered symbol whose cost is more than a ten-thousandth of its dollar volume.
mirrors selection.py:265-273 -/
def illiquid (b : BatchInputs) (d : EntryDecision) : Bool :=
  (b.members.find? (·.symbol = d.symbol)).any fun m =>
    m.dollarVolume.any fun volume => decide (div volume 10000 < d.notional)

/-- Why a decision is excluded.
mirrors selection.py:263-275 -/
def reasons (b : BatchInputs) (health : String → List String) (d : EntryDecision) : List String :=
  distinct (d.gates ++ health d.symbol) ++
    if b.illiquid d then ["DISCOVERY_LIQUIDITY_CAPACITY"] else []

/-- `exclusions[symbol]`, empty where the symbol is not excluded. -/
def exclusion (b : BatchInputs) (health : String → List String) (decisions : List EntryDecision)
    (symbol : String) : List String :=
  match decisionFor decisions symbol with
  | some d => b.reasons health d
  | none => (b.unavailable.filter (·.1 = symbol)).map (·.2)

/-- Decisions without an exclusion, in the order of the symbols. -/
def eligible (b : BatchInputs) (health : String → List String) (decisions : List EntryDecision) :
    List EntryDecision :=
  b.symbols.filterMap fun s => (decisionFor decisions s).filter fun d => b.reasons health d = []

/-- `min` by a key of four numbers: the first of the least. -/
def minBy (key : EntryDecision → ℕ × ℚ × ℕ × ℕ) : List EntryDecision → Option EntryDecision
  | [] => none
  | d :: rest => some (rest.foldl (fun best d => if Earlier (key d) (key best) then d else best) d)
where
  Earlier (x y : ℕ × ℚ × ℕ × ℕ) : Bool :=
    x.1 < y.1 ∨ x.1 = y.1 ∧ (x.2.1 < y.2.1 ∨ x.2.1 = y.2.1 ∧
      (x.2.2.1 < y.2.2.1 ∨ x.2.2.1 = y.2.2.1 ∧ x.2.2.2 < y.2.2.2))

/-- The decision chosen: a signal first, else an exploration, else the first member.
mirrors selection.py:276-307 -/
def choose (b : BatchInputs) (health : String → List String) (decisions : List EntryDecision) :
    Option EntryDecision :=
  let eligible := b.eligible health decisions
  let strong := eligible.filter fun d => d.predictionBps.any (10 < ·)
  if strong ≠ [] then
    minBy (fun d => (b.sessionCount d.symbol, -d.predictionBps.getD 0, b.priorCount d.symbol,
      b.symbols.idxOf d.symbol)) strong
  else if eligible ≠ [] then
    minBy (fun d => (b.sessionCount d.symbol, 0, b.priorCount d.symbol,
      b.symbols.idxOf d.symbol)) eligible
  else (b.symbols.filterMap (decisionFor decisions)).head?

/-- mirrors selection.py:307-326 -/
def conclude (b : BatchInputs) (health : String → List String) (decisions : List EntryDecision)
    (d : EntryDecision) : Except EntryFault EntryDecision := do
  let bound ← limits b.easternHour b.config b.policy (some d.recordedAt)
  let gates := b.exclusion health decisions d.symbol ++
    if bound.dailyEntryLimit.any (· ≤ b.sessionTotal) then ["SESSION_RESERVATION_LIMIT"] else []
  return { d with
    gates := gates
    action := if gates = [] then .buy else .wait
    exclusions := b.symbols.filterMap fun s =>
      if b.exclusion health decisions s = [] then none
      else some (s, b.exclusion health decisions s) }

/-- mirrors selection.py:237-326 -/
def evaluateCohort (b : BatchInputs) (health : String → List String) (available : ℚ) :
    Except EntryFault EntryDecision :=
  if b.config.selectionPolicy ≠ .signalOrExplore then .error .selectionPolicy
  else do
    let decisions ← b.members.mapM (b.evaluateEntry available)
    match b.choose health decisions with
    | none => .error .noObservation
    | some d => b.conclude health decisions d

end BatchInputs

/-! ## The prefix -/

/-- mirrors portfolio.py:168-181; the amounts are `max(ZERO, ...)`. -/
structure PortfolioBudget where
  remainingSlots : ℕ
  spendableCash : ℚ
  grossHeadroom : ℚ
  riskHeadroom : ℚ
  objections : List String := []
  occupiedSymbols : List String := []
  cash_nonneg : 0 ≤ spendableCash
  gross_nonneg : 0 ≤ grossHeadroom
  risk_nonneg : 0 ≤ riskHeadroom

/-- `left_cash`, `left_gross` and `left_risk`. -/
structure Headroom where
  cash : ℚ
  gross : ℚ
  risk : ℚ
deriving DecidableEq, Repr

namespace Headroom

/-- `min(left_cash, left_gross, left_risk * 100)`. -/
def available (h : Headroom) : ℚ := min (min h.cash h.gross) (mul h.risk 100)

/-- mirrors batch.py:127-130 -/
def spend (h : Headroom) (d : EntryDecision) : Headroom where
  cash := sub h.cash d.notional
  gross := sub h.gross d.notional
  risk := sub h.risk (mul d.notional (1 / 100))

end Headroom

def PortfolioBudget.headroom (budget : PortfolioBudget) : Headroom :=
  ⟨budget.spendableCash, budget.grossHeadroom, budget.riskHeadroom⟩

/-- A batch to choose: `health` are the reasons `entry_health_objections` gives. -/
structure Batch extends BatchInputs where
  budget : PortfolioBudget
  health : String → List String := fun _ => []

namespace Batch

/-- mirrors batch.py:96-97 -/
def initialHealth (b : Batch) (symbol : String) : List String :=
  if symbol ∈ b.budget.occupiedSymbols then
    distinct (b.health symbol ++ ["SYMBOL_ALREADY_RESERVED"])
  else b.health symbol

/-- `health[symbol] = reasons`. -/
def mark (health : String → List String) (symbol : String) (reasons : List String) :
    String → List String :=
  fun s => if s = symbol then reasons else health s

/-- mirrors batch.py:106 -/
def slotReasons (b : Batch) : List String :=
  if b.budget.objections ≠ [] then b.budget.objections
  else if b.budget.remainingSlots = 0 then ["PORTFOLIO_SYMBOL_CAPACITY"]
  else []

/-- One round of the loop.
mirrors batch.py:106-122 -/
def evaluate (b : Batch) (health : String → List String) (left : Headroom) :
    Except EntryFault EntryDecision :=
  b.evaluateCohort (fun s => distinct (health s ++ b.slotReasons)) left.available

/-- The loop, with the rounds that are left.
mirrors batch.py:105-131 -/
def rounds (b : Batch) : ℕ → (String → List String) → Headroom → List EntryDecision →
    Except EntryFault (List EntryDecision)
  | 0, _, _, chosen => .ok chosen
  | n + 1, health, left, chosen => do
    let d ← b.evaluate health left
    if d.action ≠ .buy then .ok (if chosen ≠ [] then chosen else [d])
    else
      b.rounds n (mark health d.symbol ["BATCH_MEMBER_ALREADY_SELECTED"]) (left.spend d)
        (chosen ++ [d])

/-- How many rounds there are at most. -/
def maximumRounds (b : Batch) : ℕ := max 1 (min b.budget.remainingSlots b.members.length)

/-- `_prefix`, which is called where the resource-bounded contract applies.
mirrors batch.py:76-143 -/
def chosenPrefix (b : Batch) : Except EntryFault (List EntryDecision) :=
  if parallelPolicy b.config b.policy = false then .error .notParallel
  else if b.members = [] then .ok []
  else b.rounds b.maximumRounds b.initialHealth b.budget.headroom []

end Batch
end Quantbot.L4.Entry
