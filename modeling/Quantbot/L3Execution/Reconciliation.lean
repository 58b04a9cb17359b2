import Mathlib.Data.List.Dedup
import Mathlib.Data.Prod.Lex
import Mathlib.Data.String.Basic
import Quantbot.Core.Decimal
import Quantbot.Core.Table
import Quantbot.L1Domain.Models

/-!
# Reconciliation of two snapshots

`execution/reconciliation.py`: two snapshots of an account are compared as a list
of differences, and a lone equity difference may be explained by the marks of
unchanged holdings. Amounts are compared through the decimal context
(`Core.Decimal`); `digest` is the SHA-256 of the canonical text of a difference.

* `compare_reconciled`: the verdict is RECONCILED exactly when the snapshots match
  (`Matches`), and the roles of the snapshots do not matter.
* `quantities_match_rounded`: quantities that differ past the 28th significant
  digit reconcile.
-/
namespace Quantbot.L3.Reconciliation

open Core L1

/-! ## Snapshots -/

/-- mirrors reconciliation.py:21-28 -/
structure ReconciliationPolicy where
  currencyPlaces : Nat := 2
  places_le : currencyPlaces ≤ 8 := by decide

def ReconciliationPolicy.moneyTolerance (p : ReconciliationPolicy) : ℚ := 1 / 10 ^ p.currencyPlaces

/-- The collections stand sorted under unique keys (`normalize_..`).
mirrors reconciliation.py:31-56 -/
structure ReconciliationSnapshot where
  account : Account
  positions : Table Position (·.symbol) := .empty
  openOrders : Table BrokerOrder (·.clientOrderId) := .empty
  fills : Table Fill (·.fillId) := .empty
  positions_sorted : positions.rows.Pairwise (·.symbol ≤ ·.symbol) := by simp [Table.empty]
  orders_sorted : openOrders.rows.Pairwise (·.clientOrderId ≤ ·.clientOrderId) := by
    simp [Table.empty]
  fills_sorted : fills.rows.Pairwise (·.fillId ≤ ·.fillId) := by simp [Table.empty]

/-- `_unique_sorted`; a repeated key is a `ValueError`.
mirrors reconciliation.py:93-102 -/
def uniqueSorted {α : Type} (key : α → String) (values : List α) :
    Option { t : Table α key // t.rows.Pairwise (key · ≤ key ·) } :=
  if h : (values.map key).Nodup then
    some ⟨(⟨values, h⟩ : Table α key).sort fun a b => key a ≤ key b,
      haveI : Std.Total fun a b : α => key a ≤ key b := ⟨fun a b => le_total (key a) (key b)⟩
      haveI : IsTrans α fun a b => key a ≤ key b := ⟨fun _ _ _ => le_trans⟩
      List.pairwise_insertionSort _ _⟩
  else none

/-- A validated snapshot. -/
def ReconciliationSnapshot.validate (account : Account) (positions : List Position)
    (openOrders : List BrokerOrder) (fills : List Fill) : Option ReconciliationSnapshot := do
  let positions ← uniqueSorted (·.symbol) positions
  let openOrders ← uniqueSorted (·.clientOrderId) openOrders
  let fills ← uniqueSorted (·.fillId) fills
  pure ⟨account, positions.1, openOrders.1, fills.1, positions.2, openOrders.2, fills.2⟩

/-! ## Differences -/

/-- A value of a difference: the text of a number, of an instant, or other text. -/
inductive Cell
  | number (value : ℚ)
  | instant (time : Int)
  | text (value : String)
deriving DecidableEq

abbrev Payload := List (String × Cell)

/-- mirrors reconciliation.py:59-64 -/
structure ReconciliationDiff where
  diffId : String
  category : String
  key : String
  expected : Payload
  actual : Payload
deriving DecidableEq

/-- `_decimal`: the normalized text of a number is determined by its rounded value. -/
def decimal (x : ℚ) : Cell := .number (Decimal.round x)

variable (digest : String → String → Payload → Payload → String)

/-- mirrors reconciliation.py:115-135 -/
def stableDiff (category key : String) (expected actual : Payload) : ReconciliationDiff :=
  ⟨"diff-" ++ digest category key expected actual, category, key, expected, actual⟩

/-- One identity of `_account_diffs`. -/
def identityDiffs (key expected actual : String) : List ReconciliationDiff :=
  if expected ≠ actual then
    [stableDiff digest "ACCOUNT" key [("value", .text expected)] [("value", .text actual)]]
  else []

/-- One amount of `_account_diffs`. -/
def moneyDiffs (policy : ReconciliationPolicy) (key : String) (expected actual : ℚ) :
    List ReconciliationDiff :=
  if policy.moneyTolerance ≤ |Decimal.sub expected actual| then
    [stableDiff digest "ACCOUNT" key [("value", decimal expected)] [("value", decimal actual)]]
  else []

/-- mirrors reconciliation.py:138-171 -/
def accountDiffs (expected actual : Account) (policy : ReconciliationPolicy) :
    List ReconciliationDiff :=
  identityDiffs digest "account_id" expected.accountId actual.accountId ++
  identityDiffs digest "currency" expected.currency actual.currency ++
  moneyDiffs digest policy "cash" expected.cash actual.cash ++
  moneyDiffs digest policy "equity" expected.equity actual.equity ++
  moneyDiffs digest policy "buying_power" expected.buyingPower actual.buyingPower

def positionPayload (p : Position) : Payload := [("quantity", decimal p.quantity)]

/-- mirrors reconciliation.py:266-281 -/
def orderPayload (o : BrokerOrder) : Payload :=
  [("broker_order_id", .text o.brokerOrderId), ("client_order_id", .text o.clientOrderId),
    ("symbol", .text o.symbol), ("side", .text o.side.value),
    ("order_type", .text o.orderType.value), ("time_in_force", .text o.timeInForce.value),
    ("quantity", decimal o.quantity), ("filled_quantity", decimal o.filledQuantity),
    ("status", .text o.status), ("submitted_at", .instant o.submittedAt),
    ("filled_average_price", (o.filledAveragePrice.map decimal).getD (.text ""))]

/-- `fill.fee_reference or "UNKNOWN"`. -/
def feeReference (reference : Option String) : String :=
  match reference with
  | none => "UNKNOWN"
  | some r => if r = "" then "UNKNOWN" else r

/-- mirrors reconciliation.py:284-295 -/
def fillPayload (f : Fill) : Payload :=
  [("broker_order_id", .text f.brokerOrderId), ("symbol", .text f.symbol),
    ("side", .text f.side.value), ("quantity", decimal f.quantity),
    ("price", decimal f.price), ("occurred_at", .instant f.occurredAt),
    ("fee", (f.fee.map decimal).getD (.text "UNKNOWN")),
    ("fee_source", .text f.feeSource.value),
    ("fee_reference", .text (feeReference f.feeReference))]

/-- One key of `_collection_diffs`; an item of a snapshot is under its key. -/
def keyDiff {α : Type} (category : String) (payload : α → Payload) (key : String)
    (expected actual : Option α) : Option ReconciliationDiff :=
  let expectedPayload := (expected.map payload).getD [("present", .text "false")]
  let actualPayload := (actual.map payload).getD [("present", .text "false")]
  if expectedPayload ≠ actualPayload then
    some (stableDiff digest category key expectedPayload actualPayload)
  else none

/-- mirrors reconciliation.py:298-316 -/
def collectionDiffs {α : Type} {identity : α → String} (category : String)
    (expected actual : Table α identity) (payload : α → Payload) : List ReconciliationDiff :=
  (((expected.rows ++ actual.rows).map identity).dedup.insertionSort (· ≤ ·)).filterMap fun key =>
    keyDiff digest category payload key (expected.get? key) (actual.get? key)

/-! ## Equity -/

def marketValues (s : ReconciliationSnapshot) : ℚ :=
  Decimal.sum (s.positions.rows.map (·.marketValue))

/-- `equity - cash - position_value`. -/
def equityResidual (s : ReconciliationSnapshot) : ℚ :=
  Decimal.sub (Decimal.sub s.account.equity s.account.cash) (marketValues s)

/-- A mark that its quantity and price bear out. -/
def MarkConsistent (tolerance : ℚ) (p : Position) : Prop :=
  p.quantity ≠ 0 ∧ 0 < Decimal.mul p.quantity p.marketValue ∧
    |Decimal.sub p.marketValue (Decimal.mul p.quantity p.marketPrice)| < tolerance
deriving Decidable

def SameHolding (before after : Position) : Prop :=
  before.symbol = after.symbol ∧ before.quantity = after.quantity ∧
    before.averageEntryPrice = after.averageEntryPrice
deriving Decidable

def valueDelta (expected actual : ReconciliationSnapshot) : ℚ :=
  Decimal.sub (marketValues actual) (marketValues expected)

/-- The equity change the marks leave over. -/
def unexplained (expected actual : ReconciliationSnapshot) : ℚ :=
  Decimal.sub (Decimal.sub actual.account.equity expected.account.equity)
    (valueDelta expected actual)

/-- mirrors reconciliation.py:178-240 -/
def equityValuationChange (expected actual : ReconciliationSnapshot)
    (policy : ReconciliationPolicy) : Option ReconciliationDiff :=
  let tolerance := policy.moneyTolerance
  if expected.positions.rows = [] ∨ expected.account.cash ≠ actual.account.cash then none
  else if expected.positions.rows.length ≠ actual.positions.rows.length then none
  else if ¬ ∀ p ∈ expected.positions.rows.zip actual.positions.rows,
      SameHolding p.1 p.2 ∧ MarkConsistent tolerance p.1 ∧ MarkConsistent tolerance p.2 then none
  else if valueDelta expected actual = 0 ∨ tolerance ≤ |equityResidual expected| ∨
      tolerance ≤ |equityResidual actual| ∨ tolerance ≤ |unexplained expected actual| then none
  else some (stableDiff digest "ACCOUNT_VALUATION" "equity"
    [("value", decimal expected.account.equity), ("cash", decimal expected.account.cash),
      ("position_market_value", decimal (marketValues expected)),
      ("equity_residual", decimal (equityResidual expected))]
    [("value", decimal actual.account.equity), ("cash", decimal actual.account.cash),
      ("position_market_value", decimal (marketValues actual)),
      ("equity_residual", decimal (equityResidual actual)),
      ("market_value_change", decimal (valueDelta expected actual)),
      ("unexplained_delta", decimal (unexplained expected actual)),
      ("reporting_tolerance", decimal tolerance)])

/-- mirrors reconciliation.py:243-263 -/
def failedEquityEvidence (s : ReconciliationSnapshot) (policy : ReconciliationPolicy) : Payload :=
  [("value", decimal s.account.equity), ("cash", decimal s.account.cash),
    ("position_market_value", decimal (marketValues s)),
    ("equity_residual", decimal (equityResidual s)),
    ("position_count", .text (toString s.positions.rows.length)),
    ("inconsistent_mark_count", .text (toString (s.positions.rows.countP fun p =>
      decide (¬ MarkConsistent policy.moneyTolerance p)))),
    ("reporting_tolerance", decimal policy.moneyTolerance)]

/-! ## The verdict -/

inductive ReconciliationStatus | reconciled | reconciliationRequired | accountMismatch
deriving DecidableEq, Repr

/-- `has_account_mismatch`. -/
def HasAccountMismatch (diffs : List ReconciliationDiff) : Prop :=
  ∃ d ∈ diffs, d.category = "ACCOUNT" ∧ d.key = "account_id"
deriving Decidable

/-- With `validate_status`.
mirrors reconciliation.py:67-90 -/
structure ReconciliationResult where
  status : ReconciliationStatus
  diffs : List ReconciliationDiff
  valuationChanges : List ReconciliationDiff := []
  reconciled_iff : status = .reconciled ↔ diffs = []
  mismatch_iff : status = .accountMismatch ↔ HasAccountMismatch diffs

/-- The status of a list of differences. -/
def statusOf (diffs : List ReconciliationDiff) : ReconciliationStatus :=
  if HasAccountMismatch diffs then .accountMismatch
  else if diffs ≠ [] then .reconciliationRequired
  else .reconciled

theorem statusOf_reconciled (diffs : List ReconciliationDiff) :
    statusOf diffs = .reconciled ↔ diffs = [] := by
  unfold statusOf; by_cases h : diffs = []
  · subst h; simp [HasAccountMismatch]
  · rw [if_pos h]; refine iff_of_false (fun hs => ?_) h
    split at hs <;> cases hs

theorem statusOf_mismatch (diffs : List ReconciliationDiff) :
    statusOf diffs = .accountMismatch ↔ HasAccountMismatch diffs := by
  unfold statusOf; by_cases h : HasAccountMismatch diffs
  · simp [h]
  rw [if_neg h]; refine iff_of_false (fun hs => ?_) h; split at hs <;> cases hs

/-- Every difference, before equity is explained. -/
def rawDiffs (expected actual : ReconciliationSnapshot) (policy : ReconciliationPolicy) :
    List ReconciliationDiff :=
  accountDiffs digest expected.account actual.account policy ++
  collectionDiffs digest "POSITION" expected.positions actual.positions positionPayload ++
  collectionDiffs digest "OPEN_ORDER" expected.openOrders actual.openOrders orderPayload ++
  collectionDiffs digest "FILL" expected.fills actual.fills fillPayload

/-- `len(diffs) == 1 and diffs[0].category == "ACCOUNT" and diffs[0].key == "equity"`. -/
def LoneEquity (diffs : List ReconciliationDiff) : Prop :=
  ∃ d, diffs = [d] ∧ d.category = "ACCOUNT" ∧ d.key = "equity"

instance : DecidablePred LoneEquity
  | [] => isFalse (by rintro ⟨_, h, _⟩; cases h)
  | [d] => decidable_of_iff (d.category = "ACCOUNT" ∧ d.key = "equity")
      ⟨fun h => ⟨d, rfl, h⟩, by rintro ⟨_, h, h'⟩; cases h; exact h'⟩
  | _ :: _ :: _ => isFalse (by rintro ⟨_, h, _⟩; cases h)

/-- The differences left and the valuation changes, once equity is explained. -/
def settledDiffs (expected actual : ReconciliationSnapshot) (policy : ReconciliationPolicy) :
    List ReconciliationDiff × List ReconciliationDiff :=
  let diffs := rawDiffs digest expected actual policy
  if LoneEquity diffs then
    match equityValuationChange digest expected actual policy with
    | some valuation => ([], [valuation])
    | none => ([stableDiff digest "ACCOUNT" "equity" (failedEquityEvidence expected policy)
        (failedEquityEvidence actual policy)], [])
  else (diffs, [])

/-- mirrors reconciliation.py:319-382 -/
def compareReconciliation (expected actual : ReconciliationSnapshot)
    (policy : ReconciliationPolicy := {}) : ReconciliationResult :=
  let settled := settledDiffs digest expected actual policy
  let ordered := settled.1.insertionSort fun d e =>
    toLex (d.category, toLex (d.key, d.diffId)) ≤ toLex (e.category, toLex (e.key, e.diffId))
  { status := statusOf ordered
    diffs := ordered
    valuationChanges := settled.2
    reconciled_iff := statusOf_reconciled ordered
    mismatch_iff := statusOf_mismatch ordered }

/-! ## What each group of differences finds -/

section Groups

variable {digest : String → String → Payload → Payload → String}

/-- Two amounts within the tolerance. -/
def Close (policy : ReconciliationPolicy) (a b : ℚ) : Prop :=
  |Decimal.sub a b| < policy.moneyTolerance

variable {policy : ReconciliationPolicy} {a b : ℚ}

theorem Close.symm (h : Close policy a b) : Close policy b a := by
  unfold Close at h ⊢; rwa [Decimal.abs_sub_swap]

variable {category key : String}

theorem identityDiffs_nil {a b : String} : identityDiffs digest key a b = [] ↔ a = b := by
  unfold identityDiffs; split
  · next h => simp [h]
  · next h => simpa using h

theorem moneyDiffs_nil : moneyDiffs digest policy key a b = [] ↔ Close policy a b := by
  unfold moneyDiffs Close; split
  · next h => simp [h]
  · next h => simpa using h

variable {α : Type}

theorem keyDiff_none {payload : α → Payload}
    (hpresent : ∀ a, payload a ≠ [("present", .text "false")]) {expected actual : Option α} :
    keyDiff digest category payload key expected actual = none ↔
      expected.map payload = actual.map payload := by
  have habsent : keyDiff digest category payload key expected actual = none ↔
      (expected.map payload).getD [("present", .text "false")] =
        (actual.map payload).getD [("present", .text "false")] := by
    unfold keyDiff; dsimp only; split
    · next h => simp [h]
    · next h => simpa using h
  rw [habsent]
  cases expected with
  | none =>
    cases actual with
    | none => simp
    | some a => simpa using fun h => hpresent a h.symm
  | some e =>
    cases actual with
    | none => simpa using hpresent e
    | some a => simp

variable {identity : α → String}

theorem collectionDiffs_nil {payload : α → Payload}
    (hpresent : ∀ a, payload a ≠ [("present", .text "false")])
    {expected actual : Table α identity} :
    collectionDiffs digest category expected actual payload = [] ↔
      ∀ key, (expected.get? key).map payload = (actual.get? key).map payload := by
  unfold collectionDiffs; rw [List.filterMap_eq_nil_iff]; constructor
  · intro h key
    by_cases hkey : key ∈ (expected.rows ++ actual.rows).map identity
    · refine (keyDiff_none hpresent).1 (h key ?_)
      rw [List.mem_insertionSort, List.mem_dedup]; exact hkey
    -- a key of neither side
    have habsent : ∀ t : Table α identity, (∀ a ∈ t.rows, a ∈ expected.rows ++ actual.rows) →
        t.get? key = none := fun t ht => Table.get?_none.2 fun a ha hk =>
      hkey (List.mem_map.2 ⟨a, ht a ha, hk⟩)
    rw [habsent expected fun a ha => List.mem_append_left _ ha,
      habsent actual fun a ha => List.mem_append_right _ ha]
  · intro h key _; exact (keyDiff_none hpresent).2 (h key)

/-- What `_order_payload` compares. -/
structure SameOrder (a b : BrokerOrder) : Prop where
  brokerOrderId : a.brokerOrderId = b.brokerOrderId
  clientOrderId : a.clientOrderId = b.clientOrderId
  symbol : a.symbol = b.symbol
  side : a.side = b.side
  orderType : a.orderType = b.orderType
  timeInForce : a.timeInForce = b.timeInForce
  quantity : Decimal.round a.quantity = Decimal.round b.quantity
  filledQuantity : Decimal.round a.filledQuantity = Decimal.round b.filledQuantity
  status : a.status = b.status
  submittedAt : a.submittedAt = b.submittedAt
  filledAveragePrice : a.filledAveragePrice.map Decimal.round = b.filledAveragePrice.map Decimal.round

/-- What `_fill_payload` compares: an unknown fee differs from every known one. -/
structure SameFill (a b : Fill) : Prop where
  brokerOrderId : a.brokerOrderId = b.brokerOrderId
  symbol : a.symbol = b.symbol
  side : a.side = b.side
  quantity : Decimal.round a.quantity = Decimal.round b.quantity
  price : Decimal.round a.price = Decimal.round b.price
  occurredAt : a.occurredAt = b.occurredAt
  fee : a.fee.map Decimal.round = b.fee.map Decimal.round
  feeSource : a.feeSource = b.feeSource
  feeReference : feeReference a.feeReference = feeReference b.feeReference

theorem optionalCell {a b : Option ℚ} {s : String} :
    (a.map decimal).getD (.text s) = (b.map decimal).getD (.text s) ↔
      a.map Decimal.round = b.map Decimal.round := by
  cases a <;> cases b <;> simp [decimal]

theorem orderPayload_eq {a b : BrokerOrder} : orderPayload a = orderPayload b ↔ SameOrder a b := by
  constructor
  · intro h
    simp only [orderPayload, List.cons.injEq, Prod.mk.injEq, true_and, Cell.text.injEq,
      Cell.instant.injEq, OrderSide.value_inj, OrderType.value_inj, TimeInForce.value_inj,
      optionalCell, decimal, Cell.number.injEq, and_true] at h
    obtain ⟨h₁, h₂, h₃, h₄, h₅, h₆, h₇, h₈, h₉, h₁₀, h₁₁⟩ := h
    exact ⟨h₁, h₂, h₃, h₄, h₅, h₆, h₇, h₈, h₉, h₁₀, h₁₁⟩
  · intro h
    simp only [orderPayload, h.brokerOrderId, h.clientOrderId, h.symbol, h.side, h.orderType,
      h.timeInForce, decimal, h.quantity, h.filledQuantity, h.status, h.submittedAt]
    rw [optionalCell.2 h.filledAveragePrice]

theorem fillPayload_eq {a b : Fill} : fillPayload a = fillPayload b ↔ SameFill a b := by
  constructor
  · intro h
    simp only [fillPayload, List.cons.injEq, Prod.mk.injEq, true_and, Cell.text.injEq,
      Cell.instant.injEq, OrderSide.value_inj, FeeSource.value_inj, optionalCell, decimal,
      Cell.number.injEq, and_true] at h
    obtain ⟨h₁, h₂, h₃, h₄, h₅, h₆, h₇, h₈, h₉⟩ := h
    exact ⟨h₁, h₂, h₃, h₄, h₅, h₆, h₇, h₈, h₉⟩
  · intro h
    simp only [fillPayload, h.brokerOrderId, h.symbol, h.side, decimal, h.quantity, h.price,
      h.occurredAt, h.feeSource, h.feeReference]
    rw [optionalCell.2 h.fee]

theorem map_eq_rel {α β : Type} {f : α → β} {r : α → α → Prop} (hf : ∀ a b, f a = f b ↔ r a b)
    {e a : Option α} : e.map f = a.map f ↔ Option.Rel r e a := by
  cases e with
  | none =>
    cases a with
    | none => exact iff_of_true rfl .none
    | some a => exact iff_of_false (by simp) (by rintro ⟨⟩)
  | some e =>
    cases a with
    | none => exact iff_of_false (by simp) (by rintro ⟨⟩)
    | some a =>
      rw [Option.map_some, Option.map_some, Option.some.injEq, hf]
      exact ⟨.some, fun h => by cases h; assumption⟩

/-- The marks of unchanged holdings explain the equity change. -/
structure EquityExplained (policy : ReconciliationPolicy)
    (expected actual : ReconciliationSnapshot) : Prop where
  held : expected.positions.rows ≠ []
  cash : expected.account.cash = actual.account.cash
  holdings : List.Forall₂ SameHolding expected.positions.rows actual.positions.rows
  expectedMarks : ∀ p ∈ expected.positions.rows, MarkConsistent policy.moneyTolerance p
  actualMarks : ∀ p ∈ actual.positions.rows, MarkConsistent policy.moneyTolerance p
  moved : valueDelta expected actual ≠ 0
  expectedResidual : |equityResidual expected| < policy.moneyTolerance
  actualResidual : |equityResidual actual| < policy.moneyTolerance
  explained : |unexplained expected actual| < policy.moneyTolerance

theorem zip_holdings {l l' : List Position} {c : Position → Prop} (hlen : l.length = l'.length) :
    (∀ p ∈ l.zip l', SameHolding p.1 p.2 ∧ c p.1 ∧ c p.2) ↔
      List.Forall₂ SameHolding l l' ∧ (∀ p ∈ l, c p) ∧ ∀ p ∈ l', c p := by
  induction l generalizing l' with
  | nil =>
    cases l' with
    | nil => simp
    | cons q l' => cases hlen
  | cons p l ih =>
    cases l' with
    | nil => cases hlen
    | cons q l' =>
      simp only [List.zip_cons_cons, List.forall_mem_cons, List.forall₂_cons,
        ih (Nat.succ.inj hlen)]
      constructor
      · rintro ⟨⟨hsame, hp, hq⟩, hl, hp', hq'⟩
        exact ⟨⟨hsame, hl⟩, ⟨hp, hp'⟩, hq, hq'⟩
      · rintro ⟨⟨hsame, hl⟩, ⟨hp, hp'⟩, hq, hq'⟩
        exact ⟨⟨hsame, hp, hq⟩, hl, hp', hq'⟩

variable {actual expected : ReconciliationSnapshot}

theorem equityValuationChange_isSome :
    (equityValuationChange digest expected actual policy).isSome ↔
      EquityExplained policy expected actual := by
  unfold equityValuationChange; dsimp only; split
  · next h =>
    refine iff_of_false (by simp) fun hx => ?_
    exact h.elim hx.held fun hcash => hcash hx.cash
  next h =>
  obtain ⟨hheld, hcash⟩ := not_or.1 h; split
  · next hlen => exact iff_of_false (by simp) fun hx => hlen hx.holdings.length_eq
  next hlen =>
  have hpairs := zip_holdings (c := MarkConsistent policy.moneyTolerance) (not_not.1 hlen)
  split
  · next hzip =>
    refine iff_of_false (by simp) fun hx => hzip (hpairs.2 ?_)
    exact ⟨hx.holdings, hx.expectedMarks, hx.actualMarks⟩
  next hzip =>
  obtain ⟨hsame, he, ha⟩ := hpairs.1 (not_not.1 hzip); split
  · next hamounts =>
    refine iff_of_false (by simp) fun hx => ?_
    rcases hamounts with hmoved | hres | hres | hrest
    · exact hx.moved hmoved
    · exact absurd hx.expectedResidual (not_lt.2 hres)
    · exact absurd hx.actualResidual (not_lt.2 hres)
    · exact absurd hx.explained (not_lt.2 hrest)
  · next hamounts =>
    simp only [not_or, not_le] at hamounts
    obtain ⟨hmoved, hres, hres', hrest⟩ := hamounts
    exact iff_of_true rfl ⟨hheld, not_not.1 hcash, hsame, he, ha, hmoved, hres, hres', hrest⟩

/-! ## Matching snapshots -/

/-- Identities, amounts, quantities, orders and fills match. -/
structure MatchesButEquity (policy : ReconciliationPolicy)
    (expected actual : ReconciliationSnapshot) : Prop where
  accountId : expected.account.accountId = actual.account.accountId
  currency : expected.account.currency = actual.account.currency
  cash : Close policy expected.account.cash actual.account.cash
  buyingPower : Close policy expected.account.buyingPower actual.account.buyingPower
  quantities : ∀ symbol, (expected.positions.get? symbol).map (Decimal.round ·.quantity) =
    (actual.positions.get? symbol).map (Decimal.round ·.quantity)
  openOrders : ∀ id, Option.Rel SameOrder (expected.openOrders.get? id) (actual.openOrders.get? id)
  fills : ∀ id, Option.Rel SameFill (expected.fills.get? id) (actual.fills.get? id)

/-- And equity is close, or the marks explain it. -/
structure Matches (policy : ReconciliationPolicy) (expected actual : ReconciliationSnapshot) :
    Prop extends MatchesButEquity policy expected actual where
  equity : Close policy expected.account.equity actual.account.equity ∨
    EquityExplained policy expected actual

theorem positionDiffs_nil :
    collectionDiffs digest "POSITION" expected.positions actual.positions positionPayload = [] ↔
      ∀ symbol, (expected.positions.get? symbol).map (Decimal.round ·.quantity) =
        (actual.positions.get? symbol).map (Decimal.round ·.quantity) := by
  rw [collectionDiffs_nil fun p => by simp [positionPayload]]
  refine forall_congr' fun symbol => ?_
  rw [map_eq_rel fun a b => Iff.rfl, map_eq_rel (r := fun a b => positionPayload a =
    positionPayload b) fun a b => by simp [positionPayload, decimal]]

theorem openOrderDiffs_nil :
    collectionDiffs digest "OPEN_ORDER" expected.openOrders actual.openOrders orderPayload = [] ↔
      ∀ id, Option.Rel SameOrder (expected.openOrders.get? id) (actual.openOrders.get? id) := by
  rw [collectionDiffs_nil fun o => by simp [orderPayload]]
  exact forall_congr' fun id => map_eq_rel fun a b => orderPayload_eq

theorem fillDiffs_nil : collectionDiffs digest "FILL" expected.fills actual.fills fillPayload = [] ↔
      ∀ id, Option.Rel SameFill (expected.fills.get? id) (actual.fills.get? id) := by
  rw [collectionDiffs_nil fun f => by simp [fillPayload]]
  exact forall_congr' fun id => map_eq_rel fun a b => fillPayload_eq

/-- Not the difference of equity. -/
def NotEquity (d : ReconciliationDiff) : Prop := ¬ (d.category = "ACCOUNT" ∧ d.key = "equity")

theorem identityDiffs_key {a b : String} (hkey : key ≠ "equity") :
    ∀ d ∈ identityDiffs digest key a b, NotEquity d := by
  unfold identityDiffs; split
  · rintro d hd ⟨_, heq⟩; rw [List.mem_singleton] at hd; subst hd
    exact hkey heq
  · simp

theorem moneyDiffs_key (hkey : key ≠ "equity") :
    ∀ d ∈ moneyDiffs digest policy key a b, NotEquity d := by
  unfold moneyDiffs; split
  · rintro d hd ⟨_, heq⟩; rw [List.mem_singleton] at hd; subst hd
    exact hkey heq
  · simp

theorem collectionDiffs_key {payload : α → Payload}
    {expected actual : Table α identity} (hcategory : category ≠ "ACCOUNT") :
    ∀ d ∈ collectionDiffs digest category expected actual payload, NotEquity d := by
  rintro d hd ⟨heq, _⟩; obtain ⟨key, _, hkey⟩ := List.mem_filterMap.1 hd
  unfold keyDiff at hkey; dsimp only at hkey; split at hkey
  · cases hkey; exact hcategory heq
  · cases hkey

theorem loneEquity_iff {before middle after : List ReconciliationDiff}
    (hbefore : ∀ d ∈ before, NotEquity d) (hafter : ∀ d ∈ after, NotEquity d)
    (hmiddle : middle = [] ∨ ∃ d, middle = [d] ∧ d.category = "ACCOUNT" ∧ d.key = "equity") :
    LoneEquity (before ++ middle ++ after) ↔ before = [] ∧ middle ≠ [] ∧ after = [] := by
  constructor
  · rintro ⟨d, hd, hequity⟩
    have hone : before.length + middle.length + after.length = 1 := by
      rw [← List.length_append, ← List.length_append, hd]; rfl
    have hmem : d ∈ before ++ middle ++ after := by simp [hd]
    rw [List.mem_append, List.mem_append] at hmem
    rcases hmem with (hmem | hmem) | hmem
    · exact absurd hequity (hbefore d hmem)
    · have hpos := List.length_pos_of_mem hmem
      refine ⟨List.eq_nil_of_length_eq_zero (by omega), List.ne_nil_of_mem hmem,
        List.eq_nil_of_length_eq_zero (by omega)⟩
    · exact absurd hequity (hafter d hmem)
  · rintro ⟨rfl, hne, rfl⟩; obtain ⟨d, rfl, hequity⟩ := hmiddle.resolve_left hne
    exact ⟨d, by simp, hequity⟩

theorem rawDiffs_split (expected actual : ReconciliationSnapshot) (policy : ReconciliationPolicy) :
    ∃ before after, rawDiffs digest expected actual policy = before ++
        moneyDiffs digest policy "equity" expected.account.equity actual.account.equity ++ after ∧
      (∀ d ∈ before, NotEquity d) ∧ (∀ d ∈ after, NotEquity d) ∧
      (before = [] ∧ after = [] ↔ MatchesButEquity policy expected actual) := by
  refine ⟨identityDiffs digest "account_id" expected.account.accountId actual.account.accountId ++
    identityDiffs digest "currency" expected.account.currency actual.account.currency ++
    moneyDiffs digest policy "cash" expected.account.cash actual.account.cash,
    moneyDiffs digest policy "buying_power" expected.account.buyingPower
      actual.account.buyingPower ++
    collectionDiffs digest "POSITION" expected.positions actual.positions positionPayload ++
    collectionDiffs digest "OPEN_ORDER" expected.openOrders actual.openOrders orderPayload ++
    collectionDiffs digest "FILL" expected.fills actual.fills fillPayload, ?_, ?_, ?_, ?_⟩
  · simp only [rawDiffs, accountDiffs, List.append_assoc]
  · simp only [List.forall_mem_append]
    exact ⟨⟨identityDiffs_key (by decide), identityDiffs_key (by decide)⟩,
      moneyDiffs_key (by decide)⟩
  · simp only [List.forall_mem_append]
    exact ⟨⟨⟨moneyDiffs_key (by decide), collectionDiffs_key (by decide)⟩,
      collectionDiffs_key (by decide)⟩, collectionDiffs_key (by decide)⟩
  · simp only [List.append_eq_nil_iff, identityDiffs_nil, moneyDiffs_nil, positionDiffs_nil,
      openOrderDiffs_nil, fillDiffs_nil]
    constructor
    · rintro ⟨⟨⟨haccount, hcurrency⟩, hcash⟩, ⟨⟨hpower, hpositions⟩, horders⟩, hfills⟩
      exact ⟨haccount, hcurrency, hcash, hpower, hpositions, horders, hfills⟩
    · intro h
      exact ⟨⟨⟨h.accountId, h.currency⟩, h.cash⟩, ⟨⟨h.buyingPower, h.quantities⟩, h.openOrders⟩,
        h.fills⟩

theorem settledDiffs_nil :
    (settledDiffs digest expected actual policy).1 = [] ↔ Matches policy expected actual := by
  obtain ⟨before, after, hraw, hbefore, hafter, hrest⟩ :=
    @rawDiffs_split digest expected actual policy
  have hequity : moneyDiffs digest policy "equity" expected.account.equity
      actual.account.equity = [] ↔ _ := moneyDiffs_nil
  have hmiddle : moneyDiffs digest policy "equity" expected.account.equity
        actual.account.equity = [] ∨
      ∃ d, moneyDiffs digest policy "equity" expected.account.equity actual.account.equity = [d] ∧
        d.category = "ACCOUNT" ∧ d.key = "equity" := by
    unfold moneyDiffs; split
    · exact .inr ⟨_, rfl, rfl, rfl⟩
    · exact .inl rfl
  have hlone := loneEquity_iff hbefore hafter hmiddle
  have hmatches : Matches policy expected actual ↔ MatchesButEquity policy expected actual ∧
      (Close policy expected.account.equity actual.account.equity ∨
        EquityExplained policy expected actual) :=
    ⟨fun h => ⟨h.toMatchesButEquity, h.equity⟩, fun ⟨h, he⟩ => ⟨h, he⟩⟩
  rw [hmatches, ← hrest, ← hequity]; unfold settledDiffs; dsimp only
  rw [hraw]; split
  · next h =>
    obtain ⟨hb, hm, ha⟩ := hlone.1 h
    have hsome : (equityValuationChange digest expected actual policy).isSome ↔ _ :=
      equityValuationChange_isSome
    cases hv : equityValuationChange digest expected actual policy with
    | some v =>
      rw [hv] at hsome; exact iff_of_true rfl ⟨⟨hb, ha⟩, .inr (hsome.1 rfl)⟩
    | none =>
      rw [hv] at hsome; refine iff_of_false (by simp) ?_
      rintro ⟨_, hclose | hexplained⟩
      · exact hm hclose
      · exact absurd (hsome.2 hexplained) (by simp)
  · next h =>
    rw [hlone] at h; simp only [List.append_eq_nil_iff]; constructor
    · rintro ⟨⟨hb, hm⟩, ha⟩; exact ⟨⟨hb, ha⟩, .inl hm⟩
    · rintro ⟨⟨hb, ha⟩, hm | hexplained⟩
      · exact ⟨⟨hb, hm⟩, ha⟩
      · have hm := not_not.1 fun hm => h ⟨hb, hm, ha⟩; exact ⟨⟨hb, hm⟩, ha⟩

/-! ## The roles of the snapshots -/

theorem optionRel_symm {r : α → α → Prop} (hr : ∀ a b, r a b → r b a)
    {e a : Option α} (h : Option.Rel r e a) : Option.Rel r a e := by
  cases h with
  | some h => exact .some (hr _ _ h)
  | none => exact .none

theorem SameOrder.symm {a b : BrokerOrder} (h : SameOrder a b) : SameOrder b a :=
  orderPayload_eq.1 (orderPayload_eq.2 h).symm

theorem SameFill.symm {a b : Fill} (h : SameFill a b) : SameFill b a :=
  fillPayload_eq.1 (fillPayload_eq.2 h).symm

theorem valueDelta_swap (a b : ReconciliationSnapshot) : valueDelta b a = -valueDelta a b :=
  Decimal.sub_swap _ _

theorem unexplained_swap (a b : ReconciliationSnapshot) : unexplained b a = -unexplained a b := by
  unfold unexplained
  rw [valueDelta_swap, Decimal.sub_swap b.account.equity, Decimal.sub_neg_neg]

variable {a b : ReconciliationSnapshot}

theorem EquityExplained.symm (h : EquityExplained policy a b) : EquityExplained policy b a where
  held := by
    intro hnil; have hlen := h.holdings.length_eq; rw [hnil] at hlen
    exact h.held (List.eq_nil_of_length_eq_zero hlen)
  cash := h.cash.symm
  holdings := h.holdings.flip.imp fun _ _ hs => ⟨hs.1.symm, hs.2.1.symm, hs.2.2.symm⟩
  expectedMarks := h.actualMarks
  actualMarks := h.expectedMarks
  moved := by
    rw [valueDelta_swap]; exact neg_ne_zero.2 h.moved
  expectedResidual := h.actualResidual
  actualResidual := h.expectedResidual
  explained := by
    rw [unexplained_swap, abs_neg]; exact h.explained

theorem Matches.symm (h : Matches policy a b) : Matches policy b a where
  accountId := h.accountId.symm
  currency := h.currency.symm
  cash := h.cash.symm
  buyingPower := h.buyingPower.symm
  quantities symbol := (h.quantities symbol).symm
  openOrders id := optionRel_symm (fun _ _ => SameOrder.symm) (h.openOrders id)
  fills id := optionRel_symm (fun _ _ => SameFill.symm) (h.fills id)
  equity := h.equity.imp Close.symm EquityExplained.symm

end Groups

/-- **Reconciliation.** The verdict is RECONCILED exactly when the snapshots match, and
it is so for either order of the two. -/
theorem compare_reconciled (digest : String → String → Payload → Payload → String)
    (policy : ReconciliationPolicy) (expected actual : ReconciliationSnapshot) :
    ((compareReconciliation digest expected actual policy).status = .reconciled ↔
      Matches policy expected actual) ∧
    ((compareReconciliation digest actual expected policy).status = .reconciled ↔
      (compareReconciliation digest expected actual policy).status = .reconciled) := by
  have hverdict : ∀ e a, (compareReconciliation digest e a policy).status = .reconciled ↔
      Matches policy e a := by
    intro e a
    rw [(compareReconciliation digest e a policy).reconciled_iff, ← @settledDiffs_nil digest]
    show List.insertionSort _ _ = [] ↔ _
    rw [← List.length_eq_zero_iff, List.length_insertionSort, List.length_eq_zero_iff]
  refine ⟨hverdict expected actual, ?_⟩; rw [hverdict, hverdict]
  exact ⟨Matches.symm, Matches.symm⟩

/-! ## Past the last digit -/

def oneShare (quantity : ℚ) : ReconciliationSnapshot where
  account :=
    { accountId := "a", cash := 0, buyingPower := 0, equity := 1, currency := "USD"
      cash_nonneg := L1.nil_nonneg, buyingPower_nonneg := L1.nil_nonneg
      equity_nonneg := L1.unit_nonneg }
  positions := Table.empty.insert
    { symbol := "SPY", quantity := quantity, marketPrice := 1, marketValue := 1
      averageEntryPrice := 1, marketPrice_pos := L1.unit_pos
      averageEntryPrice_pos := L1.unit_pos }
  positions_sorted := List.pairwise_singleton _ _

/-- Two books that differ in the 29th digit of a quantity reconcile. -/
theorem quantities_match_rounded :
    (compareReconciliation (fun _ _ _ _ => "") (oneShare 1) (oneShare (1 + 1 / 10 ^ 28))).status =
      .reconciled ∧ ((oneShare 1).positions.get? "SPY").map (·.quantity) ≠
      ((oneShare (1 + 1 / 10 ^ 28)).positions.get? "SPY").map (·.quantity) := by
  decide +kernel

end Quantbot.L3.Reconciliation
