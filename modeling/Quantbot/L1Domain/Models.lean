import Mathlib.Data.List.DropRight
import Mathlib.Data.Rat.Init
import Mathlib.Algebra.Order.Field.Rat
import Quantbot.L1Domain.Lifecycle
import Quantbot.L1Domain.MarketData

/-!
# Domain records

`domain/models.py` (`OrderIntent`, `BrokerOrder`, `Fill`, `Account`, `Position`) and
the broker stream record `TradeUpdate` of `brokers/alpaca_stream.py`. What a
pydantic validator promises of the numbers is a proof field, so no function below
meets a non-positive quantity, an overfilled order or a fill event without a fill.

A `Decimal` is its exact value in `ℚ`; where the text a number was written with
is read (the event fingerprint), the exponents it was written with stand beside
the values (`Spelling`). An instant is its UTC microsecond count.
-/
namespace Quantbot.L1

/-! ## Text -/

/-- Characters `str.strip` removes. -/
def isSpace (c : Char) : Bool :=
  c.toNat ∈ [9, 10, 11, 12, 13, 28, 29, 30, 31, 32, 133, 160, 5760, 8192, 8193, 8194, 8195, 8196,
    8197, 8198, 8199, 8200, 8201, 8202, 8232, 8233, 8239, 8287, 12288]

/-- `str.strip()`. -/
def strip (s : String) : String :=
  String.ofList ((s.toList.dropWhile isSpace).reverse.dropWhile isSpace).reverse

theorem toList_strip (s : String) :
    (strip s).toList = (s.toList.dropWhile isSpace).rdropWhile isSpace := by
  unfold strip List.rdropWhile; rw [String.toList_ofList]

@[simp] theorem strip_strip (s : String) : strip (strip s) = strip s := by
  apply String.toList_inj.1; rw [toList_strip (strip s), toList_strip s]
  set inner := s.toList.dropWhile isSpace with hinner
  have hinit := List.rdropWhile_prefix isSpace inner
  have hdrop : (inner.rdropWhile isSpace).dropWhile isSpace = inner.rdropWhile isSpace := by
    rw [List.dropWhile_eq_self_iff]; intro hlen
    have hhead := List.dropWhile_get_zero_not isSpace s.toList (by
      exact lt_of_lt_of_le hlen hinit.length_le)
    rw [hinit.getElem hlen]; simpa using hhead
  rw [hdrop, List.rdropWhile_idempotent]

theorem strip_ne_empty {s : String} {c : Char} (hc : c ∈ s.toList) (hs : isSpace c = false) :
    strip s ≠ "" := by
  intro h
  have hnil : (s.toList.dropWhile isSpace).rdropWhile isSpace = [] := by
    rw [← toList_strip, h]; rfl
  rw [List.rdropWhile_eq_nil_iff] at hnil
  rw [← List.takeWhile_append_dropWhile (p := isSpace) (l := s.toList), List.mem_append] at hc
  have hspace : isSpace c = true := hc.elim List.mem_takeWhile_imp (hnil c)
  rw [hs] at hspace; cases hspace

/-- `str.lower()` on the ASCII letters. -/
def lower (s : String) : String := String.ofList (s.toList.map Char.toLower)

/-- `order.status.strip().lower()`. -/
def normalStatus (status : String) : String := lower (strip status)

/-! ## Enumerations -/

inductive OrderSide | buy | sell
deriving DecidableEq, Repr

inductive OrderType | market | limit | stop | stopLimit
deriving DecidableEq, Repr

inductive TimeInForce | day | gtc
deriving DecidableEq, Repr

/-- `Fill.fee_source`. -/
inductive FeeSource | unknown | brokerReported | contractualZero
deriving DecidableEq, Repr

def OrderSide.value : OrderSide → String
  | .buy => "BUY"
  | .sell => "SELL"

def OrderType.value : OrderType → String
  | .market => "MARKET"
  | .limit => "LIMIT"
  | .stop => "STOP"
  | .stopLimit => "STOP_LIMIT"

def TimeInForce.value : TimeInForce → String
  | .day => "DAY"
  | .gtc => "GTC"

def FeeSource.value : FeeSource → String
  | .unknown => "UNKNOWN"
  | .brokerReported => "BROKER_REPORTED"
  | .contractualZero => "CONTRACTUAL_ZERO"

@[simp] theorem OrderSide.value_inj {a b : OrderSide} : a.value = b.value ↔ a = b := by
  cases a <;> cases b <;> decide

@[simp] theorem OrderType.value_inj {a b : OrderType} : a.value = b.value ↔ a = b := by
  cases a <;> cases b <;> decide

@[simp] theorem TimeInForce.value_inj {a b : TimeInForce} : a.value = b.value ↔ a = b := by
  cases a <;> cases b <;> decide

@[simp] theorem FeeSource.value_inj {a b : FeeSource} : a.value = b.value ↔ a = b := by
  cases a <;> cases b <;> decide

/-! ## Orders and fills -/

/-- `validate_order_prices`.
mirrors models.py:146-163 -/
def ValidPrices (orderType : OrderType) (limitPrice stopPrice : Option ℚ) : Prop :=
  match orderType with
  | .market => limitPrice = none ∧ stopPrice = none
  | .limit => limitPrice ≠ none ∧ stopPrice = none
  | .stop => limitPrice = none ∧ stopPrice ≠ none
  | .stopLimit => limitPrice ≠ none ∧ stopPrice ≠ none

instance (t : OrderType) (l s : Option ℚ) : Decidable (ValidPrices t l s) := by
  cases t <;> exact inferInstanceAs (Decidable (_ ∧ _))

/-- mirrors models.py:129-163 -/
structure OrderIntent where
  intentId : String
  clientOrderId : String
  strategyId : String
  symbol : String
  signalDate : Int
  side : OrderSide
  orderType : OrderType
  timeInForce : TimeInForce
  quantity : ℚ
  limitPrice : Option ℚ := none
  stopPrice : Option ℚ := none
  extendedHours : Bool := false
  state : IntentState := .riskApproved
  createdAt : Int
  quantity_pos : 0 < quantity
  prices : ValidPrices orderType limitPrice stopPrice
deriving DecidableEq

/-- `intent.model_copy(update={"state": state})`. -/
def OrderIntent.withState (i : OrderIntent) (state : IntentState) : OrderIntent :=
  { i with state := state }

section

variable (i : OrderIntent)
include i

@[simp] theorem OrderIntent.withState_state (q : IntentState) :
    (i.withState q).state = q := rfl

@[simp] theorem OrderIntent.withState_withState (q r : IntentState) :
    (i.withState q).withState r = i.withState r := rfl

@[simp] theorem OrderIntent.withState_self : i.withState i.state = i := rfl

@[simp] theorem OrderIntent.withState_intentId (q : IntentState) :
    (i.withState q).intentId = i.intentId := rfl

@[simp] theorem OrderIntent.withState_clientOrderId (q : IntentState) :
    (i.withState q).clientOrderId = i.clientOrderId := rfl

@[simp] theorem OrderIntent.withState_quantity (q : IntentState) :
    (i.withState q).quantity = i.quantity := rfl

end

/-- mirrors models.py:166-182 -/
structure BrokerOrder where
  brokerOrderId : String
  clientOrderId : String
  symbol : String
  side : OrderSide
  orderType : OrderType
  timeInForce : TimeInForce
  quantity : ℚ
  filledQuantity : ℚ
  status : String
  submittedAt : Int
  filledAveragePrice : Option ℚ := none
  quantity_pos : 0 < quantity
  filled_nonneg : 0 ≤ filledQuantity
  filled_le : filledQuantity ≤ quantity
deriving DecidableEq

/-- `validate_fee_authority`.
mirrors models.py:205-211 -/
def ValidFee (fee : Option ℚ) (source : FeeSource) (reference : Option String) : Prop :=
  (source ≠ .unknown → fee ≠ none ∧ reference ≠ none ∧ reference ≠ some "") ∧
    (source = .contractualZero → fee = some 0)
deriving Decidable

/-- mirrors models.py:185-211 -/
structure Fill where
  fillId : String
  brokerOrderId : String
  symbol : String
  side : OrderSide
  quantity : ℚ
  price : ℚ
  occurredAt : Int
  fee : Option ℚ := none
  feeSource : FeeSource := .unknown
  feeReference : Option String := none
  quantity_pos : 0 < quantity
  price_pos : 0 < price
  fee_nonneg : ∀ f ∈ fee, 0 ≤ f
  fee_valid : ValidFee fee feeSource feeReference
deriving DecidableEq

/-- Buys count positive, sells negative. -/
def Fill.signedQuantity (f : Fill) : ℚ :=
  match f.side with
  | .buy => f.quantity
  | .sell => -f.quantity

theorem Fill.signedQuantity_ne_zero (f : Fill) : f.signedQuantity ≠ 0 := by
  have := f.quantity_pos; unfold signedQuantity; split
  · exact this.ne'
  · exact (neg_lt_zero.2 this).ne

/-! ## Accounts and positions -/

/-- mirrors models.py:91-97 -/
structure Account where
  accountId : String
  cash : ℚ
  buyingPower : ℚ
  equity : ℚ
  currency : String
  nonMarginableBuyingPower : Option ℚ := none
  cash_nonneg : 0 ≤ cash
  buyingPower_nonneg : 0 ≤ buyingPower
  equity_nonneg : 0 ≤ equity
deriving DecidableEq

/-- mirrors models.py:117-121 -/
structure Position where
  symbol : String
  quantity : ℚ
  marketPrice : ℚ
  marketValue : ℚ
  averageEntryPrice : ℚ
  marketPrice_pos : 0 < marketPrice
  averageEntryPrice_pos : 0 < averageEntryPrice
deriving DecidableEq

/-! ## Stream updates -/

/-- mirrors alpaca_stream.py:61-81 -/
inductive TradeUpdateEvent
  | accepted | pendingNew | new | fill | partialFill | canceled | expired | doneForDay | replaced
  | rejected | held | stopped | pendingCancel | pendingReplace | calculated | suspended
  | orderReplaceRejected | orderCancelRejected | tradeBust | tradeCorrect
deriving DecidableEq, Repr

def TradeUpdateEvent.value : TradeUpdateEvent → String
  | .accepted => "accepted"
  | .pendingNew => "pending_new"
  | .new => "new"
  | .fill => "fill"
  | .partialFill => "partial_fill"
  | .canceled => "canceled"
  | .expired => "expired"
  | .doneForDay => "done_for_day"
  | .replaced => "replaced"
  | .rejected => "rejected"
  | .held => "held"
  | .stopped => "stopped"
  | .pendingCancel => "pending_cancel"
  | .pendingReplace => "pending_replace"
  | .calculated => "calculated"
  | .suspended => "suspended"
  | .orderReplaceRejected => "order_replace_rejected"
  | .orderCancelRejected => "order_cancel_rejected"
  | .tradeBust => "trade_bust"
  | .tradeCorrect => "trade_correct"

/-- `event in {FILL, PARTIAL_FILL}`. -/
def TradeUpdateEvent.isFill (e : TradeUpdateEvent) : Bool := e = .fill ∨ e = .partialFill

/-- The exponents an update's numbers are written with ("100" and "100.0" are one
value and two texts). -/
structure Spelling where
  quantity : Int := 0
  filledQuantity : Int := 0
  filledAveragePrice : Int := 0
  fillQuantity : Int := 0
  fillPrice : Int := 0
  fee : Int := 0
  positionQuantity : Int := 0
deriving DecidableEq, Repr

/-- mirrors alpaca_stream.py:84-108 -/
structure TradeUpdate where
  event : TradeUpdateEvent
  eventId : String
  order : BrokerOrder
  occurredAt : Int
  fill : Option Fill := none
  positionQuantity : Option ℚ := none
  connectionGeneration : Nat
  spelling : Spelling := {}
  fill_shape : fill.isSome = event.isFill ∧ positionQuantity.isSome = event.isFill
  eventId_text : eventId ≠ "" ∧ strip eventId = eventId
deriving DecidableEq

theorem market_unpriced : ValidPrices .market none none := by decide

theorem fee_absent : ∀ f ∈ (none : Option ℚ), 0 ≤ f := by simp

theorem fee_unknown : ValidFee none .unknown none := by decide

/-- The update as delivered on another connection. -/
def TradeUpdate.onGeneration (u : TradeUpdate) (g : Nat) : TradeUpdate :=
  { u with connectionGeneration := g }

end Quantbot.L1
