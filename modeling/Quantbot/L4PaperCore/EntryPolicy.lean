import Quantbot.Core.DecimalSteps
import Quantbot.L4PaperCore.Contracts

/-!
# Entry sizes and the entry gate

`paper_core/entry_policy.py`, with the parts of `economics.py`, `crypto_policy.py` and
`asset_capability.py` it calls: how large an entry may be (`entryQuantity`) and whether a
quantity may be entered (`entryRiskAllowed`). Every operation on amounts is the decimal one
(`Core.Decimal`); what raises is an `EntryFault`.

The local hour in America/New_York of an instant is a parameter. `eligibility_objections`
reads `observed_at` and its time zone: `observedAt` is `none` for a time without one.
-/
namespace Quantbot.L4.Entry

open Core L1
open Core.Decimal (add sub mul div truncate quantizeDown remainder stepDown)

/-- What sizing raises. -/
inductive EntryFault
  | invalidOperation | quantityTerms | admissionTime | limitsTime | noObservation
  | selectionPolicy | notParallel
deriving DecidableEq, Repr

def EntryFault.message : EntryFault → String
  | .invalidOperation => "decimal.InvalidOperation"
  | .quantityTerms => "broker crypto quantity terms required"
  | .admissionTime => "crypto admission requires an aware evaluation time"
  | .limitsTime => "crypto entry limits require aware time"
  | .noObservation => "cohort has no available observation"
  | .selectionPolicy => "cohort requires SIGNAL_OR_EXPLORE_V1"
  | .notParallel => "batch requires the resource-bounded PAPER admission policy"

/-! ## Policies -/

/-- `CryptoPaperPolicy`.
mirrors crypto_policy.py:60-80 -/
structure CryptoPaperPolicy where
  symbols : List String := ["BTC/USD", "ETH/USD", "SOL/USD"]
deriving DecidableEq, Repr

/-- `EntryPolicy.contract`. -/
inductive PolicyContract | wholeShareFallback | resourceBoundedPaper
deriving DecidableEq, Repr

/-- `EntryPolicy.universe`. -/
inductive PolicyUniverse | configured | alpacaAssets
deriving DecidableEq, Repr

/-- `EntryPolicy`; `id` is its content id, `universeKind` its `universe`.
mirrors entry_policy.py:32-58 -/
structure EntryPolicy where
  id : String
  contract : PolicyContract := .wholeShareFallback
  symbols : List String
  universeKind : PolicyUniverse := .configured
  crypto : Option CryptoPaperPolicy := none
  crypto_amendment : crypto.isSome → universeKind = .alpacaAssets ∧ contract = .resourceBoundedPaper
  discovery : universeKind = .alpacaAssets → symbols = [] ∧ contract = .resourceBoundedPaper
deriving DecidableEq

/-- `sizing_headroom_bps`. -/
def sizingHeadroomBps : ℚ := 100

/-- `supported_symbol`: `[A-Z0-9][A-Z0-9.\-]{0,31}`.
mirrors entry_policy.py:154-156 -/
def supportedSymbol (symbol : String) : Bool :=
  match symbol.toList with
  | [] => false
  | c :: rest =>
    (c.isUpper || c.isDigit) && decide (rest.length ≤ 31) &&
      rest.all fun c => c.isUpper || c.isDigit || c = '.' || c = '-'

namespace EntryPolicy

def dynamic (p : EntryPolicy) : Bool := p.universeKind = .alpacaAssets

/-- mirrors entry_policy.py:73-76 -/
def permits (p : EntryPolicy) (symbol : String) : Bool :=
  if p.crypto.any (symbol ∈ ·.symbols) then true
  else if p.dynamic then supportedSymbol symbol
  else symbol ∈ p.symbols

end EntryPolicy

/-! ## Assets -/

inductive AssetClass | usEquity | crypto
deriving DecidableEq, Repr

/-- The quantity terms of `AssetCapability`.
mirrors asset_capability.py:29-61 -/
@[ext] structure AssetCapability where
  symbol : String
  quantityStep : ℚ
  minimumQuantity : ℚ
  quantityStep_pos : 0 < quantityStep
  minimumQuantity_pos : 0 < minimumQuantity

instance : DecidableEq AssetCapability := fun _ _ =>
  decidable_of_iff _ AssetCapability.ext_iff.symm

/-- mirrors asset_capability.py:63-66 -/
def AssetCapability.boundQuantity (c : AssetCapability) (quantity : ℚ) : ℚ :=
  let bounded := stepDown quantity c.quantityStep
  if c.minimumQuantity ≤ bounded then bounded else 0

/-- The terms of `AssetEligibility` that sizing and its checks read.
mirrors entry_policy.py:83-124 -/
@[ext] structure AssetEligibility where
  symbol : String
  assetClass : AssetClass := .usEquity
  entryPolicyId : String
  fractionable : Bool
  observedAt : Option Int
  minimumQuantity : Option ℚ := none
  quantityStep : Option ℚ := none
  minimumQuantity_pos : ∀ m ∈ minimumQuantity, 0 < m
  quantityStep_pos : ∀ s ∈ quantityStep, 0 < s
  crypto_terms : assetClass = .crypto →
    fractionable = true ∧ minimumQuantity.isSome ∧ quantityStep.isSome
  equity_terms : assetClass = .usEquity → minimumQuantity = none ∧ quantityStep = none

instance : DecidableEq AssetEligibility := fun _ _ =>
  decidable_of_iff _ AssetEligibility.ext_iff.symm

/-- mirrors entry_policy.py:138-143 -/
def AssetEligibility.boundQuantity (e : AssetEligibility) (quantity : ℚ) : Except EntryFault ℚ :=
  match e.assetClass, e.quantityStep with
  | .crypto, some step =>
    let bounded := stepDown quantity step
    .ok (if e.minimumQuantity.getD 0 ≤ bounded then bounded else 0)
  | _, _ => .error .quantityTerms

/-- What `eligibility_objections` says of a quantity.
mirrors entry_policy.py:317-329 -/
def quantityObjections (e : AssetEligibility) (quantity : ℚ) : Except EntryFault (List String) :=
  if e.fractionable = false ∧ quantity ≠ truncate quantity then .ok ["ASSET_WHOLE_QUANTITY_REQUIRED"]
  else if e.assetClass = .crypto then
    if quantity < e.minimumQuantity.getD 0 then .ok ["ASSET_CRYPTO_MINIMUM_QUANTITY"]
    else
      match e.quantityStep with
      | none => .ok ["ASSET_CRYPTO_QUANTITY_INCREMENT"]
      | some step =>
        match remainder quantity step with
        | none => .error .invalidOperation
        | some rest => .ok (if rest ≠ 0 then ["ASSET_CRYPTO_QUANTITY_INCREMENT"] else [])
  else .ok []

/-- The evidence is for this symbol and policy and at most `maxAge` seconds old.
mirrors entry_policy.py:309-315 -/
def AssetEligibility.Current (e : AssetEligibility) (symbol : String) (now maxAge : Int)
    (policyId : Option String) : Prop :=
  e.symbol = symbol ∧ (∃ at' ∈ e.observedAt, 0 ≤ now - at' ∧ now - at' ≤ maxAge * 1000000) ∧
    ∀ id ∈ policyId, e.entryPolicyId = id
deriving Decidable

/-- mirrors entry_policy.py:300-330 -/
def eligibilityObjections (eligibility : Option AssetEligibility) (symbol : String) (now : Int)
    (quantity : Option ℚ) (maxAge : Int) (policyId : Option String) :
    Except EntryFault (List String) :=
  match eligibility with
  | none => .ok ["ASSET_ELIGIBILITY_UNVERIFIED"]
  | some e =>
    if ¬ e.Current symbol now maxAge policyId then .ok ["ASSET_ELIGIBILITY_STALE_OR_MISMATCHED"]
    else match quantity with
      | none => .ok []
      | some q => quantityObjections e q

/-! ## Limits -/

/-- `CoreConfig.economic_profile`. -/
inductive EconomicProfile | legacy30m | resourceBoundedPaper
deriving DecidableEq, Repr

/-- What sizing reads of `CoreConfig` besides the fields of `Contracts`.
mirrors contracts.py:26-115 -/
structure EntryConfig extends CoreConfig where
  economicProfile : EconomicProfile := .legacy30m
  assetCapabilities : List AssetCapability := []
  capabilities_single : assetCapabilities ≠ [] →
    selectionPolicy = .modelOnly ∧ economicProfile = .legacy30m
deriving DecidableEq

/-- mirrors economics.py:18-29 -/
structure EconomicLimits where
  maxPositions : Option ℕ
  positionBps : ℕ
  grossBps : Option ℕ
  reserveBps : ℕ
  entryRiskBps : ℕ
  stopBps : ℕ
  openRiskBps : Option ℕ
  dailyLossBps : Option ℕ
  holdSeconds : ℕ
  dailyEntryLimit : Option ℕ
deriving DecidableEq, Repr

/-- mirrors economics.py:32-35 -/
def parallelPolicy (config : EntryConfig) (policy : Option EntryPolicy) : Bool :=
  config.economicProfile = .resourceBoundedPaper ∨ policy.any (·.contract = .resourceBoundedPaper)

/-- `in_sleep_window`: 22:00 to 06:00 Eastern.
mirrors crypto_policy.py:23-37 -/
def inSleepWindow (easternHour : Int → ℕ) (at' : Int) : Bool :=
  ¬ (6 ≤ easternHour at' ∧ easternHour at' < 22)

/-- mirrors economics.py:38-66 -/
def limits (easternHour : Int → ℕ) (config : EntryConfig) (policy : Option EntryPolicy)
    (at' : Option Int) : Except EntryFault EconomicLimits :=
  let bound : EconomicLimits :=
    if parallelPolicy config policy then
      ⟨none, 50, some 9500, 500, 25, 100, some 25, some 200, 1800, none⟩
    else ⟨some 1, 50, none, 500, 25, 100, none, none, 1800, some 6⟩
  match policy.bind (·.crypto), at' with
  | none, _ => .ok bound
  | some _, none => .error .limitsTime
  | some _, some at' =>
    if inSleepWindow easternHour at' then
      .ok { bound with
        maxPositions := some 1
        positionBps := 25
        grossBps := some 4750
        entryRiskBps := 12
        openRiskBps := some 12
        dailyLossBps := some 100 }
    else .ok bound

/-- `amount * bps / 10000`. -/
def bpsOf (amount : ℚ) (bps : ℕ) : ℚ := div (mul amount bps) 10000

/-! ## Sizing -/

/-- The arguments `entry_quantity` and `entry_risk_allowed` are called with. -/
structure EntryTerms where
  account : Account
  price : ℚ
  policy : Option EntryPolicy := none
  fractionable : Option Bool := none
  config : Option EntryConfig := none
  availableNotional : Option ℚ := none
  capability : Option AssetCapability := none
  eligibility : Option AssetEligibility := none
  at' : Option Int := none
  price_pos : 0 < price

namespace EntryTerms

/-- The eligibility of a crypto asset. -/
def crypto (i : EntryTerms) : Option AssetEligibility :=
  i.eligibility.filter (·.assetClass = .crypto)

/-- The policy has a crypto amendment and permits the symbol. -/
def permitted (i : EntryTerms) (symbol : String) : Bool :=
  i.policy.any fun p => p.crypto.isSome && p.permits symbol

/-- Whether the resource-bounded contract applies. -/
def parallel (i : EntryTerms) : Bool := i.config.any (parallelPolicy · i.policy)

/-- A quantity rounded down as the asset asks. -/
def boundedQuantity (i : EntryTerms) (quantity : ℚ) : Except EntryFault ℚ :=
  match i.crypto, i.capability with
  | some e, _ => e.boundQuantity quantity
  | none, some c => .ok (c.boundQuantity quantity)
  | none, none =>
    match quantizeDown 6 quantity with
    | some q => .ok q
    | none => .error .invalidOperation

/-- mirrors entry_policy.py:209-216 -/
def positionBps (easternHour : Int → ℕ) (i : EntryTerms) : Except EntryFault ℕ :=
  match i.policy.bind (·.crypto), i.at' with
  | none, _ => .ok 50
  | some _, none => .error .admissionTime
  | some _, some at' => .ok (if inSleepWindow easternHour at' then 25 else 50)

/-- mirrors entry_policy.py:217-219 -/
def target (i : EntryTerms) (positionBps : ℕ) : ℚ :=
  let target := bpsOf i.account.equity positionBps
  if i.policy.isSome then mul target (div (10000 - sizingHeadroomBps) 10000) else target

/-- `entry_quantity` without a configuration, past its first check.
mirrors entry_policy.py:209-229 -/
def normalQuantity (easternHour : Int → ℕ) (i : EntryTerms) : Except EntryFault ℚ := do
  let positionBps ← i.positionBps easternHour
  let normal ← i.boundedQuantity (div (i.target positionBps) i.price)
  if i.policy.isSome ∧ i.fractionable = some false then return max 1 (truncate normal)
  return normal

/-- The money an entry of the resource-bounded contract may take.
mirrors entry_policy.py:182-189 -/
def available (i : EntryTerms) (bound : EconomicLimits) : ℚ :=
  max 0 (min (min (sub i.account.cash (bpsOf i.account.equity bound.reserveBps))
    (i.availableNotional.getD i.account.cash))
    (if i.crypto.isSome then i.account.nonMarginableBuyingPower.getD 0 else i.account.cash))

/-- mirrors entry_policy.py:180-208 -/
def boundedEntry (easternHour : Int → ℕ) (i : EntryTerms) (config : EntryConfig) :
    Except EntryFault ℚ := do
  let bound ← limits easternHour config i.policy i.at'
  let normal ← i.normalQuantity easternHour
  if i.fractionable = some false then
    return if mul normal i.price ≤ i.available bound then normal else 0
  let availableQuantity ← i.boundedQuantity (div (i.available bound) i.price)
  return min normal availableQuantity

/-- mirrors entry_policy.py:159-229 -/
def entryQuantity (easternHour : Int → ℕ) (i : EntryTerms) : Except EntryFault ℚ :=
  if i.crypto.any (!i.permitted ·.symbol) then .ok 0
  else
    match i.config with
    | some config =>
      if parallelPolicy config i.policy then i.boundedEntry easternHour config
      else i.normalQuantity easternHour
    | none => i.normalQuantity easternHour

/-! ## The gate -/

/-- What refuses a crypto entry.
mirrors entry_policy.py:247-264 -/
def cryptoRefused (i : EntryTerms) (e : AssetEligibility) (quantity : ℚ)
    (minimumWholeShare : Bool) : Except EntryFault Bool :=
  match i.policy, i.at' with
  | some p, some at' =>
    if p.crypto = none ∨ p.permits e.symbol = false then .ok true
    else do
      let objections ← eligibilityObjections (some e) e.symbol at' (some quantity) 120 (some p.id)
      return decide (objections ≠ [] ∨
        (∀ power ∈ i.account.nonMarginableBuyingPower, power < mul quantity i.price) ∨
        minimumWholeShare = true)
  | _, _ => .ok true

/-- The bounds of the resource-bounded contract.
mirrors entry_policy.py:265-278 -/
def Bounded (i : EntryTerms) (bound : EconomicLimits) (quantity : ℚ) (minimumWholeShare : Bool) :
    Prop :=
  0 < quantity ∧
    (mul quantity i.price ≤ bpsOf i.account.equity bound.positionBps ∨
      minimumWholeShare = true ∧ quantity = 1) ∧
    bpsOf (mul quantity i.price) bound.stopBps ≤ bpsOf i.account.equity bound.entryRiskBps ∧
    mul quantity i.price ≤
      max 0 (sub i.account.cash (bpsOf i.account.equity bound.reserveBps)) ∧
    ∀ available ∈ i.availableNotional, mul quantity i.price ≤ available
deriving Decidable

/-- The bounds without it.
mirrors entry_policy.py:279-285 -/
def LegacyBounded (i : EntryTerms) (quantity : ℚ) (minimumWholeShare : Bool) : Prop :=
  0 < quantity ∧
    (mul quantity i.price ≤ mul i.account.equity (5 / 1000) ∨
      minimumWholeShare = true ∧ quantity = 1) ∧
    mul (mul quantity i.price) (1 / 100) ≤ mul i.account.equity (25 / 10000) ∧
    mul quantity i.price ≤ i.account.cash ∧
    mul quantity i.price ≤ mul i.account.buyingPower (95 / 100)
deriving Decidable

/-- The last part of the gate. -/
def boundsAllow (easternHour : Int → ℕ) (i : EntryTerms) (quantity : ℚ)
    (minimumWholeShare : Bool) : Except EntryFault Bool :=
  match i.config with
  | some config =>
    if parallelPolicy config i.policy then do
      let bound ← limits easternHour config i.policy i.at'
      return decide (i.Bounded bound quantity minimumWholeShare)
    else .ok (decide (i.LegacyBounded quantity minimumWholeShare))
  | none => .ok (decide (i.LegacyBounded quantity minimumWholeShare))

/-- mirrors entry_policy.py:232-285 -/
def entryRiskAllowed (easternHour : Int → ℕ) (i : EntryTerms) (quantity : ℚ)
    (minimumWholeShare : Bool) : Except EntryFault Bool :=
  match i.crypto with
  | none => i.boundsAllow easternHour quantity minimumWholeShare
  | some e => do
    let refused ← i.cryptoRefused e quantity minimumWholeShare
    if refused then return false
    i.boundsAllow easternHour quantity minimumWholeShare

/-- `minimum_whole_share`, of a decision under this policy.
mirrors entry_policy.py:288-297 -/
def minimumWholeShare (i : EntryTerms) (quantity : ℚ) : Bool :=
  i.policy.isSome ∧ i.fractionable = some false ∧ quantity = 1

end EntryTerms
end Quantbot.L4.Entry
