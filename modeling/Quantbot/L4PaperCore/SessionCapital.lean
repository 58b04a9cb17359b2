import Quantbot.Core.Arith
import Quantbot.Core.DecimalCents
import Quantbot.L4PaperCore.ContinuousCapital

/-!
# Session capital

`acquire_session_capital` (`paper_core/capital.py:165-325`): the cash and the quantities the
activity rows of a session leave of the opening balance. A row is booked at its exact amount;
then each order whose executions are a complete prefix is moved to the cents its cumulative
value rounds to.

The calculation is written over an arithmetic: `Arith.decimal` is what is computed, and
`Arith.exact` what is meant.

A row is the members read of it. What a text holds of a number or of an instant is read
beforehand (`Number`, `Moment`); upper case is that of the ASCII letters.
-/
namespace Quantbot.L4.SessionCapital

open Core L1

/-! ## Activity rows -/

/-- A member of a row: missing, a text, or another value by its `str`. -/
inductive Member
  | missing
  | text (value : String)
  | other (shown : String)
deriving DecidableEq, Repr

/-- `str(row.get(name, ""))`. -/
def Member.str : Member → String
  | .missing => ""
  | .text value => value
  | .other shown => shown

/-- Nonempty text without surrounding blanks.
mirrors brokers/alpaca.py:79-83 -/
def Member.text? : Member → Option String
  | .text value => if strip value = "" ∨ value ≠ strip value then none else some value
  | _ => none

/-- What `Decimal(str(value))` makes of a member; of a missing one it makes nothing. -/
inductive Number
  | unreadable
  | special
  | finite (value : ℚ)
deriving DecidableEq, Repr

/-- mirrors brokers/alpaca.py:86-96 -/
def Number.finite? : Number → Option ℚ
  | .finite value => some value
  | _ => none

/-- What a member holds of an instant: nothing (a value that is false), no text, a text
`datetime.fromisoformat` refuses, a time without a zone, of which the date counts, or an
instant. -/
inductive Moment
  | empty
  | untext
  | unreadable
  | naive (date : Int)
  | aware (time : Int)
deriving DecidableEq, Repr

/-- mirrors brokers/alpaca.py:112-122 -/
def Moment.aware? : Moment → Option Int
  | .aware time => some time
  | _ => none

/-- `a or b`. -/
def Moment.or : Moment → Moment → Moment
  | .empty, m => m
  | m, _ => m

structure ActivityRow where
  id : Member
  activityType : Member
  orderId : Member := .missing
  symbol : Member := .missing
  side : Member := .missing
  qty : Number := .unreadable
  price : Number := .unreadable
  cumQty : Number := .unreadable
  netAmount : Number := .unreadable
  createdAt : Moment := .empty
  transactionTime : Moment := .empty
  date : Moment := .empty
deriving DecidableEq, Repr

namespace ActivityRow

/-- `row.get("created_at") or row.get("transaction_time") or row.get("date")`. -/
def rawTime (row : ActivityRow) : Moment := (row.createdAt.or row.transactionTime).or row.date

def isFill (row : ActivityRow) : Bool := decide (row.activityType = .text "FILL")

def isFee (row : ActivityRow) : Bool :=
  decide (row.activityType = .text "FEE" ∨ row.activityType = .text "CFEE")

end ActivityRow

/-- `text.upper()`. -/
def upper (text : String) : String := String.ofList (text.toList.map Char.toUpper)

/-- `OrderSide(text.upper())`. -/
def orderSide (text : String) : Option OrderSide :=
  if upper text = "BUY" then some .buy else if upper text = "SELL" then some .sell else none

/-- mirrors brokers/alpaca.py:712-730 -/
def fillFromPayload (row : ActivityRow) : Option Fill := do
  let fillId ← row.id.text?
  let brokerOrderId ← row.orderId.text?
  let symbol ← row.symbol.text?
  let side ← row.side.text?.bind orderSide
  let quantity ← row.qty.finite?
  let price ← row.price.finite?
  let occurredAt ← row.transactionTime.aware?
  if h : 0 < quantity ∧ 0 < price ∧ symbol = upper symbol then
    some { fillId, brokerOrderId, symbol, side, quantity, price, occurredAt
           quantity_pos := h.1, price_pos := h.2.1
           fee_nonneg := L1.fee_absent, fee_valid := L1.fee_unknown }
  else none

/-- An execution of an order, with the cumulative quantity the row reports. -/
structure Execution where
  fill : Fill
  cumulative : ℚ
deriving DecidableEq

/-! ## Reading the rows -/

/-- What ends the reconstruction: a `BrokerProtocolError`, a text that is no instant, or an
operation on decimals. -/
inductive CapitalError
  | brokerProtocol
  | invalidTime
  | invalidOperation
deriving DecidableEq, Repr

inductive RoundingObjection
  | cumulativeUnavailable
  | prefixIncomplete (orderId : String)
  | centTie (orderId : String)
deriving DecidableEq, Repr

/-- What the rows read so far come to. `executions` holds the lists of `order_fills`, one after
the other as their rows are: the list of an order is its executions in this one. -/
structure Tally where
  expectedCash : ℚ
  quantities : Quantities
  external : List String := []
  valid : Bool := true
  seen : List String := []
  executions : List Execution := []
  roundingObjections : List RoundingObjection := []
deriving DecidableEq

/-- `Decimal(1) if side.value == "BUY" else Decimal(-1)`. -/
def sign : OrderSide → ℚ
  | .buy => 1
  | .sell => -1

section Model

variable (A : Arith) (capturedAt sessionDate watermark : Int)

/-- `quantities[k] = quantities.get(k, Decimal(0)) + x`. -/
def addQuantity (quantities : Quantities) (symbol : String) (x : ℚ) : Quantities :=
  quantities.upsert (symbol, A.add (quantities.value symbol) x)

/-- The order half of a fill.
mirrors capital.py:188-195 -/
def noteExecution (t : Tally) (fill : Fill) (cumQty : Number) : Tally :=
  match cumQty with
  | .finite cumulative =>
    if cumulative < fill.quantity then
      { t with
        valid := false
        roundingObjections := t.roundingObjections ++ [.cumulativeUnavailable] }
    else { t with executions := t.executions ++ [⟨fill, cumulative⟩] }
  | _ =>
    { t with
      valid := false
      roundingObjections := t.roundingObjections ++ [.cumulativeUnavailable] }

/-- The cash half of a fill.
mirrors capital.py:196-200 -/
def bookFill (t : Tally) (fill : Fill) : Tally :=
  if fill.occurredAt ≤ capturedAt then t
  else
    { t with
      quantities := addQuantity A t.quantities fill.symbol (A.mul (sign fill.side) fill.quantity)
      expectedCash := A.sub t.expectedCash
        (A.mul (A.mul (sign fill.side) fill.quantity) fill.price) }

/-- mirrors capital.py:183-200 -/
def readFill (t : Tally) (row : ActivityRow) : Except CapitalError Tally :=
  match fillFromPayload row with
  | none => .error .brokerProtocol
  | some fill =>
    if watermark < fill.occurredAt then .ok { t with valid := false }
    else .ok (bookFill A capturedAt (noteExecution t fill row.cumQty) fill)

/-- mirrors capital.py:202-226 -/
def readOther (t : Tally) (row : ActivityRow) : Except CapitalError Tally :=
  let noted := if row.isFee then t.external else t.external ++ [row.id.str]
  match row.rawTime with
  | .empty | .untext => .ok { t with valid := false }
  | .unreadable => .error .invalidTime
  | .naive date =>
    if date ≠ sessionDate then .ok t
    else .ok { t with external := noted, valid := false }
  | .aware time =>
    if time ≤ capturedAt then .ok t
    else if watermark < time then .ok { t with valid := false }
    else
      match row.netAmount with
      | .unreadable => .error .invalidOperation
      | .special => .ok { t with valid := false }
      | .finite amount =>
        .ok { t with expectedCash := A.add t.expectedCash amount, external := noted }

/-- mirrors capital.py:176-226 -/
def readRow (t : Tally) (row : ActivityRow) : Except CapitalError Tally :=
  if row.id.str = "" ∨ row.id.str ∈ t.seen then .ok { t with valid := false }
  else
    let t := { t with seen := row.id.str :: t.seen }
    if row.isFill then readFill A capturedAt watermark t row
    else readOther A capturedAt sessionDate watermark t row

/-! ## Rounding the orders -/

/-- The order an order's executions are summed in.
mirrors capital.py:230 -/
def Earlier (a b : Execution) : Prop :=
  a.fill.occurredAt < b.fill.occurredAt ∨
    a.fill.occurredAt = b.fill.occurredAt ∧ a.cumulative ≤ b.cumulative
deriving Decidable

structure OrderTotals where
  cumulative : ℚ := 0
  total : ℚ := 0
  before : ℚ := 0
  completePrefix : Bool := true
deriving DecidableEq

/-- mirrors capital.py:234-244 -/
def addExecution (first : Fill) (s : OrderTotals) (e : Execution) : OrderTotals :=
  let cumulative := A.add s.cumulative e.fill.quantity
  let value := A.mul e.fill.quantity e.fill.price
  { cumulative
    total := A.add s.total value
    before := if e.fill.occurredAt ≤ capturedAt then A.add s.before value else s.before
    completePrefix := s.completePrefix && decide (e.fill.symbol = first.symbol ∧
      e.fill.side = first.side ∧ e.cumulative = cumulative) }

structure OrderCashComponent where
  orderId : String
  symbol : String
  side : OrderSide
  fillIds : List String
  exactValue : ℚ
  exactValueAtOpening : ℚ
  reportedCentValue : ℚ
  reportedCentValueAtOpening : ℚ
deriving DecidableEq, Repr

/-- What the orders rounded so far make of the cash. -/
structure Settling where
  expectedCash : ℚ
  valid : Bool
  roundingObjections : List RoundingObjection
  components : List OrderCashComponent := []
deriving DecidableEq

/-- The rounding of a complete order.
mirrors capital.py:249-274 -/
def roundOrder (s : Settling) (orderId : String) (first : Fill) (executions : List Execution)
    (sums : OrderTotals) : Except CapitalError Settling :=
  match Decimal.quantizeEven 2 sums.total, Decimal.quantizeEven 2 sums.before with
  | some rounded, some roundedBefore =>
    let tie : Bool := decide (|A.sub sums.total rounded| = 1 / 200 ∨
      |A.sub sums.before roundedBefore| = 1 / 200)
    .ok
      { expectedCash := A.add s.expectedCash (A.mul (sign first.side)
          (A.sub (A.sub sums.total sums.before) (A.sub rounded roundedBefore)))
        valid := s.valid && !tie
        roundingObjections := s.roundingObjections ++ if tie then [.centTie orderId] else []
        components := s.components ++
          [{ orderId, symbol := first.symbol, side := first.side
             fillIds := executions.map (·.fill.fillId)
             exactValue := sums.total, exactValueAtOpening := sums.before
             reportedCentValue := rounded, reportedCentValueAtOpening := roundedBefore }] }
  | _, _ => .error .invalidOperation

/-- One order of `order_fills`; an order there has an execution.
mirrors capital.py:229-274 -/
def settleOrder (s : Settling) (orderId : String) (fills : List Execution) :
    Except CapitalError Settling :=
  let executions := fills.insertionSort Earlier
  match executions with
  | [] => .ok s
  | e :: _ =>
    let sums := executions.foldl (addExecution A capturedAt e.fill) {}
    if sums.completePrefix then roundOrder A s orderId e.fill executions sums
    else .ok
      { s with
        valid := false
        roundingObjections := s.roundingObjections ++ [.prefixIncomplete orderId] }

/-- The executions of an order. -/
def ofOrder (executions : List Execution) (orderId : String) : List Execution :=
  executions.filter fun e => decide (e.fill.brokerOrderId = orderId)

/-- `sorted(order_fills)`. -/
def orderIds (executions : List Execution) : List String :=
  ((executions.map (·.fill.brokerOrderId)).dedup).insertionSort (· ≤ ·)

/-- mirrors capital.py:229-274 -/
def settleOrders (executions : List Execution) (s : Settling) : Except CapitalError Settling :=
  (orderIds executions).foldlM
    (fun s orderId => settleOrder A capturedAt s orderId (ofOrder executions orderId)) s

end Model

/-! ## The evidence -/

/-- `tuple(sorted(pairs))`. -/
def sortedPairs (pairs : List (String × ℚ)) : List (String × ℚ) :=
  pairs.insertionSort fun a b => a.1 < b.1 ∨ a.1 = b.1 ∧ a.2 ≤ b.2

/-- What the document and the evidence say of the reconstruction. -/
structure Reconstruction where
  complete : Bool
  externalFlowIds : List String
  expectedCash : ℚ
  observedCash : ℚ
  cashResidual : ℚ
  quantitiesMatch : Bool
  exactFillImpliedCash : ℚ
  roundingAdjustment : ℚ
  orderCashComponents : List OrderCashComponent
  roundingObjections : List RoundingObjection
deriving DecidableEq

/-- mirrors capital.py:275-322 -/
def evidenceOf (A : Arith) (proof : ReconciliationProof) (t : Tally) (s : Settling) :
    Reconstruction :=
  let quantitiesMatch : Bool := decide
    (sortedPairs t.quantities.nonzero.rows = sortedPairs proof.actualQuantities)
  let cashResidual := A.sub proof.account.cash s.expectedCash
  { complete := s.valid && quantitiesMatch && decide (|cashResidual| ≤ 1 / 100)
    externalFlowIds := t.external.insertionSort (· ≤ ·)
    expectedCash := s.expectedCash
    observedCash := proof.account.cash
    cashResidual
    quantitiesMatch
    exactFillImpliedCash := t.expectedCash
    roundingAdjustment := A.sub s.expectedCash t.expectedCash
    orderCashComponents := s.components
    roundingObjections := s.roundingObjections }

/-- The reconstruction from the rows of one read.
mirrors capital.py:165-325 -/
def reconstruct (A : Arith) (opening : SessionOpening) (origin proof : ReconciliationProof)
    (watermark : Int) (rows : List ActivityRow) : Except CapitalError Reconstruction := do
  let t ← rows.foldlM (readRow A opening.capturedAt opening.sessionDate watermark)
    { expectedCash := origin.account.cash, quantities := .ofList origin.actualQuantities }
  let s ← settleOrders A opening.capturedAt t.executions
    { expectedCash := t.expectedCash, valid := t.valid
      roundingObjections := t.roundingObjections }
  return evidenceOf A proof t s

end Quantbot.L4.SessionCapital
