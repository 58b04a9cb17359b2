import Mathlib.Tactic.FieldSimp
import Mathlib.Tactic.Linarith
import Mathlib.Tactic.Ring
import Quantbot.Core.Table
import Quantbot.L3Execution.OrderEvents

/-!
# Portfolio accounting

`execution/accounting.py`: `apply_trade_update` books one broker-confirmed
execution into cash, realized P&L, the cost-based positions and the fee total,
exactly once, and refuses an execution whose resulting position quantity is not
the broker's. Money is exact (`ℚ`); `None` is an unknown amount.

## Results
* `averageAfterFill_book`, `averageAfterFill_pos`: on every branch (open, add,
  reduce, close, flip) cost basis moves by the cash paid plus the profit
  realized, and stays positive.
* `accounting_identity`: over any accepted sequence, from any account, cash plus
  cost basis minus realized P&L is constant, fees and quantities add up, an
  unknown fee makes the money totals unknown for good, and a redelivery is the
  identity or refused.
-/
namespace Quantbot.L3.Accounting

open Core L1

/-! ## Cost arithmetic of one fill -/

/-- mirrors accounting.py:97-117 -/
def averageAfterFill (currentQuantity : ℚ) (currentAverage : Option ℚ)
    (signedFillQuantity fillPrice : ℚ) : Option ℚ :=
  let newQuantity := currentQuantity + signedFillQuantity
  if newQuantity = 0 then none
  else if currentQuantity = 0 then some fillPrice
  else if 0 < currentQuantity * signedFillQuantity then
    currentAverage.map fun average =>
      (|currentQuantity| * average + |signedFillQuantity| * fillPrice) / |newQuantity|
  else if 0 < currentQuantity * newQuantity then currentAverage
  else some fillPrice

/-- mirrors accounting.py:120-131 -/
def realizedFillPnl (currentQuantity : ℚ) (currentAverage : Option ℚ)
    (signedFillQuantity fillPrice : ℚ) : Option ℚ :=
  if currentQuantity = 0 ∨ 0 ≤ currentQuantity * signedFillQuantity then some 0
  else currentAverage.map fun average =>
    let closedQuantity := min |currentQuantity| |signedFillQuantity|
    if 0 < currentQuantity then (fillPrice - average) * closedQuantity
    else (average - fillPrice) * closedQuantity

/-- mirrors accounting.py:134-141 -/
def adverseSlippage (fill : Fill) (referencePrice : Option ℚ) : ℚ :=
  match referencePrice with
  | none => 0
  | some reference =>
    match fill.side with
    | .buy => max (fill.price - reference) 0 * fill.quantity
    | .sell => max (reference - fill.price) 0 * fill.quantity

theorem adverseSlippage_nonneg (fill : Fill) (r : Option ℚ) : 0 ≤ adverseSlippage fill r := by
  have hq := fill.quantity_pos.le; unfold adverseSlippage; split
  · exact le_rfl
  · split <;> exact mul_nonneg (le_max_right _ _) hq

/-- The cost basis of a quantity held at an average (none held: no basis). -/
def basis (quantity : ℚ) (average : Option ℚ) : ℚ := quantity * average.getD 0

section OneFill

variable {q s price : ℚ} {average : Option ℚ}

/-- A fill against the held side that leaves the sign as it was closes only part. -/
theorem closed_part (hq : q ≠ 0) (hs : q * s < 0) (hn : 0 < q * (q + s)) :
    min |q| |s| = |s| ∧ (0 < q → |s| = -s) ∧ (¬ 0 < q → |s| = s) := by
  rcases lt_or_gt_of_ne hq with hneg | hpos
  · have hs' : 0 < s := by nlinarith
    have hn' : q + s < 0 := by nlinarith
    refine ⟨min_eq_right ?_, fun h => absurd h hneg.not_gt, fun _ => abs_of_pos hs'⟩
    rw [abs_of_pos hs', abs_of_neg hneg]; linarith
  · have hs' : s < 0 := by nlinarith
    have hn' : 0 < q + s := by nlinarith
    refine ⟨min_eq_right ?_, fun _ => abs_of_neg hs', fun h => absurd hpos h⟩
    rw [abs_of_neg hs', abs_of_pos hpos]; linarith

theorem closed_all (hq : q ≠ 0) (hs : q * s < 0) (hn : ¬ 0 < q * (q + s)) :
    min |q| |s| = |q| ∧ (0 < q → |q| = q) ∧ (¬ 0 < q → |q| = -q) := by
  rcases lt_or_gt_of_ne hq with hneg | hpos
  · have hs' : 0 < s := by nlinarith
    have hn' : 0 ≤ q + s := by nlinarith
    refine ⟨min_eq_left ?_, fun h => absurd h hneg.not_gt, fun _ => abs_of_neg hneg⟩
    rw [abs_of_pos hs', abs_of_neg hneg]; linarith
  · have hs' : s < 0 := by nlinarith
    have hn' : q + s ≤ 0 := by nlinarith
    refine ⟨min_eq_left ?_, fun _ => abs_of_pos hpos, fun h => absurd hpos h⟩
    rw [abs_of_neg hs', abs_of_pos hpos]; linarith

/-- **One fill balances.** The cost basis moves by the cash paid plus the profit
realized, on every branch. -/
theorem averageAfterFill_book {realized : ℚ} (hs : s ≠ 0)
    (havg : q ≠ 0 → average ≠ none) (hr : realizedFillPnl q average s price = some realized) :
    basis (q + s) (averageAfterFill q average s price) =
      basis q average + s * price + realized := by
  unfold realizedFillPnl at hr; unfold averageAfterFill basis
  by_cases hq : q = 0
  · -- open
    subst hq; simp only [true_or, if_true, Option.some.injEq] at hr; subst hr
    simp [hs]
  obtain ⟨a, rfl⟩ := Option.ne_none_iff_exists'.1 (havg hq)
  simp only [hq, false_or, Option.map_some, if_false, Option.getD_some] at hr ⊢
  rcases lt_or_ge (q * s) 0 with hneg | hsame
  · rw [if_neg hneg.not_ge, Option.some.injEq] at hr; rw [if_neg hneg.not_gt]
    by_cases hn : 0 < q * (q + s)
    · -- reduce
      have hne : q + s ≠ 0 := fun h => by rw [h, mul_zero] at hn; exact lt_irrefl _ hn
      obtain ⟨hmin, hp, hm⟩ := closed_part hq hneg hn
      rw [if_neg hne, if_pos hn, Option.getD_some]; rw [hmin] at hr; split at hr
      · next h => rw [hp h] at hr; subst hr; ring
      · next h => rw [hm h] at hr; subst hr; ring
    · -- close or flip
      obtain ⟨hmin, hp, hm⟩ := closed_all hq hneg hn
      have hreal : realized = (price - a) * q := by
        rw [hmin] at hr; split at hr
        · next h => rw [hp h] at hr; exact hr.symm
        · next h => rw [hm h] at hr; rw [← hr]; ring
      subst hreal; by_cases hz : q + s = 0
      · obtain rfl : s = -q := by linarith
        simp only [hz, if_true, Option.getD_none]; ring
      · rw [if_neg hz, if_neg hn, Option.getD_some]; ring
  · -- add
    rw [if_pos hsame, Option.some.injEq] at hr; subst hr
    have hpos : 0 < q * s := lt_of_le_of_ne hsame (mul_ne_zero hq hs).symm
    have habs : |q + s| = |q| + |s| := by
      rcases lt_or_gt_of_ne hq with h | h
      · have : s < 0 := by nlinarith
        rw [abs_of_neg h, abs_of_neg this, abs_of_neg (add_neg h this)]; ring
      · have : 0 < s := by nlinarith
        rw [abs_of_pos h, abs_of_pos this, abs_of_pos (add_pos h this)]
    have hne : q + s ≠ 0 := by
      intro h; rw [h, abs_zero] at habs; have := abs_pos.2 hq
      have := abs_pos.2 hs; linarith
    rw [if_neg hne, if_pos hpos, Option.getD_some]
    rcases lt_or_gt_of_ne hq with h | h
    · have hs' : s < 0 := by nlinarith
      rw [abs_of_neg h, abs_of_neg hs', abs_of_neg (add_neg h hs')]; field_simp
      ring
    · have hs' : 0 < s := by nlinarith
      rw [abs_of_pos h, abs_of_pos hs', abs_of_pos (add_pos h hs')]; field_simp
      ring

end OneFill

/-! ## The accounting state -/

/-- mirrors accounting.py:19-37 -/
structure AccountingPosition where
  symbol : String
  quantity : ℚ
  averageCost : ℚ
  quantity_ne : quantity ≠ 0
  cost_pos : 0 < averageCost

/-- mirrors accounting.py:40-53 -/
structure AppliedExecution where
  fill : Fill
  positionQuantity : ℚ
  referencePrice : Option ℚ := none
  reference_pos : ∀ p ∈ referencePrice, 0 < p
deriving DecidableEq

abbrev Positions := Table AccountingPosition (·.symbol)
abbrev Executions := Table AppliedExecution (·.fill.fillId)

/-- mirrors accounting.py:56-94 -/
structure PortfolioAccountingState where
  cash : Option ℚ
  realizedPnl : Option ℚ
  positions : Positions := .empty
  appliedExecutions : Executions := .empty
  feesPaid : Option ℚ := some 0
  slippageCost : ℚ := 0
  fees_nonneg : ∀ f ∈ feesPaid, 0 ≤ f
  slippage_nonneg : 0 ≤ slippageCost

/-- `AccountingReconciliationRequired` by cause; `invalid` is a validator or
`assert` that fails. -/
inductive AccountingError
  | tradeCorrection
  | conflictingDuplicate (fillId : String)
  | positionDisagrees
  | invalid
deriving DecidableEq, Repr

def AccountingError.message : AccountingError → String
  | .tradeCorrection => "trade correction requires authoritative broker reconciliation"
  | .conflictingDuplicate f => "conflicting duplicate execution: " ++ f
  | .positionDisagrees =>
    "computed position quantity disagrees with authoritative broker position quantity"
  | .invalid => ""

/-- `normalize_positions`: ordered by symbol. -/
def normalizePositions (ps : Positions) : Positions := ps.sort fun p q => p.symbol ≤ q.symbol

def currentQuantity (ps : Positions) (symbol : String) : ℚ := ps.valueAt (·.quantity) symbol

def currentAverage (ps : Positions) (symbol : String) : Option ℚ :=
  (ps.get? symbol).map (·.averageCost)

/-- `fee = fill.fee if fill.fee_source != "UNKNOWN" else None`. -/
def knownFee (fill : Fill) : Option ℚ := if fill.feeSource = .unknown then none else fill.fee

/-- `positions` after the fill: popped at zero, set otherwise.
mirrors accounting.py:200-208 -/
def nextPositions (ps : Positions) (symbol : String) (newQuantity : ℚ) (newAverage : Option ℚ) :
    Option Positions :=
  if hq : newQuantity = 0 then some (ps.erase symbol)
  else match newAverage with
    | none => none
    | some a =>
      if ha : 0 < a then some (ps.upsert ⟨symbol, newQuantity, a, hq, ha⟩) else none

theorem feesPaid_nonneg {fees : Option ℚ} (h : ∀ f ∈ fees, 0 ≤ f) (fill : Fill) :
    ∀ f ∈ (fees.bind fun p => (knownFee fill).map (p + ·)), 0 ≤ f := by
  intro f hf
  simp only [Option.mem_def, Option.bind_eq_some_iff, Option.map_eq_some_iff] at hf
  obtain ⟨p, hp, g, hg, rfl⟩ := hf
  refine add_nonneg (h p hp) (fill.fee_nonneg g ?_); unfold knownFee at hg
  split at hg
  · cases hg
  · exact hg

/-- The state with one more execution.
mirrors accounting.py:210-223 -/
def book (st : PortfolioAccountingState) (candidate : AppliedExecution) (ps : Positions)
    (realized : ℚ) : PortfolioAccountingState where
  cash := st.cash.bind fun c => (knownFee candidate.fill).map fun fee =>
    c - candidate.fill.signedQuantity * candidate.fill.price - fee
  realizedPnl := st.realizedPnl.bind fun r => (knownFee candidate.fill).map fun fee =>
    r + realized - fee
  positions := normalizePositions ps
  appliedExecutions := st.appliedExecutions.insert candidate
  feesPaid := st.feesPaid.bind fun p => (knownFee candidate.fill).map (p + ·)
  slippageCost := st.slippageCost + adverseSlippage candidate.fill candidate.referencePrice
  fees_nonneg := feesPaid_nonneg st.fees_nonneg candidate.fill
  slippage_nonneg := add_nonneg st.slippage_nonneg (adverseSlippage_nonneg _ _)

/-- The part of `apply_trade_update` after the duplicate check.
mirrors accounting.py:178-223 -/
def applyExecution (st : PortfolioAccountingState) (candidate : AppliedExecution) :
    Except AccountingError PortfolioAccountingState :=
  let fill := candidate.fill
  let quantity := currentQuantity st.positions fill.symbol
  let average := currentAverage st.positions fill.symbol
  let newQuantity := quantity + fill.signedQuantity
  if newQuantity ≠ candidate.positionQuantity then .error .positionDisagrees
  else
    match realizedFillPnl quantity average fill.signedQuantity fill.price,
      nextPositions st.positions fill.symbol newQuantity
        (averageAfterFill quantity average fill.signedQuantity fill.price) with
    | some realized, some ps => .ok (book st candidate ps realized)
    | _, _ => .error .invalid

/-- mirrors accounting.py:144-223 -/
def applyTradeUpdate (st : PortfolioAccountingState) (update : TradeUpdate)
    (referencePrice : Option ℚ := none) : Except AccountingError PortfolioAccountingState :=
  if update.event = .tradeBust ∨ update.event = .tradeCorrect then .error .tradeCorrection
  else if !update.event.isFill then .ok st
  else match update.fill, update.positionQuantity with
    | some fill, some positionQuantity =>
      if h : ∀ p ∈ referencePrice, 0 < p then
        let candidate : AppliedExecution := ⟨fill, positionQuantity, referencePrice, h⟩
        match st.appliedExecutions.get? fill.fillId with
        | some existing =>
          if existing = candidate then .ok st else .error (.conflictingDuplicate fill.fillId)
        | none => applyExecution st candidate
      else .error .invalid
    | _, _ => .error .invalid

/-- An update with the reference price its caller passes. -/
abbrev Delivery := TradeUpdate × Option ℚ

/-- The reducer over a sequence of deliveries, all accepted. -/
def applyAll (st : PortfolioAccountingState) (ds : List Delivery) :
    Except AccountingError PortfolioAccountingState :=
  ds.foldlM (fun s d => applyTradeUpdate s d.1 d.2) st

/-- A caller that keeps its state when the reducer raises. -/
def applyOrKeep (st : PortfolioAccountingState) (d : Delivery) : PortfolioAccountingState :=
  (applyTradeUpdate st d.1 d.2).toOption.getD st

/-- The delivery carries this execution. -/
def Delivers (d : Delivery) (e : AppliedExecution) : Prop :=
  d.1.event.isFill = true ∧ d.1.fill = some e.fill ∧
    d.1.positionQuantity = some e.positionQuantity ∧ d.2 = e.referencePrice

/-- Cash plus cost basis minus realized P&L, when both are known. -/
def bookValue (st : PortfolioAccountingState) : Option ℚ :=
  st.cash.bind fun c => st.realizedPnl.map fun r =>
    c + st.positions.total (fun p => p.quantity * p.averageCost) - r

def quantityOf (st : PortfolioAccountingState) (symbol : String) : ℚ :=
  currentQuantity st.positions symbol

/-! ## What one delivery can do -/

variable {st st' : PortfolioAccountingState} {d : Delivery} {e : AppliedExecution}

/-- The execution was booked: it is new and its quantity is the broker's. -/
structure Booked (st : PortfolioAccountingState) (e : AppliedExecution)
    (st' : PortfolioAccountingState) : Prop where
  isNew : st.appliedExecutions.get? e.fill.fillId = none
  agrees : quantityOf st e.fill.symbol + e.fill.signedQuantity = e.positionQuantity
  written : ∃ ps realized,
    realizedFillPnl (quantityOf st e.fill.symbol) (currentAverage st.positions e.fill.symbol)
      e.fill.signedQuantity e.fill.price = some realized ∧
    nextPositions st.positions e.fill.symbol e.positionQuantity
      (averageAfterFill (quantityOf st e.fill.symbol) (currentAverage st.positions e.fill.symbol)
        e.fill.signedQuantity e.fill.price) = some ps ∧
    st' = book st e ps realized

theorem applyExecution_ok (hn : st.appliedExecutions.get? e.fill.fillId = none)
    (h : applyExecution st e = .ok st') : Booked st e st' := by
  unfold applyExecution at h; simp only [ne_eq, ite_not] at h; split at h
  · next hq =>
    split at h
    · next realized ps hr hps =>
      rw [hq] at hps; cases h; exact ⟨hn, hq, ps, realized, hr, hps, rfl⟩
    · cases h
  · cases h

/-- The three ways a delivery is accepted: no execution, a repeated one, a new one. -/
theorem applyTradeUpdate_ok (h : applyTradeUpdate st d.1 d.2 = .ok st') :
    (d.1.event.isFill = false ∧ st' = st) ∨ ∃ e, Delivers d e ∧
      (st.appliedExecutions.get? e.fill.fillId = some e ∧ st' = st ∨ Booked st e st') := by
  unfold applyTradeUpdate at h; split at h
  · cases h
  split at h
  · next hf => cases h; exact .inl ⟨by simpa using hf, rfl⟩
  next hf =>
  split at h
  · next fill q hfill hq =>
    split at h
    · next hr =>
      have hd : Delivers d ⟨fill, q, d.2, hr⟩ := ⟨by simpa using hf, hfill, hq, rfl⟩
      simp only at h; split at h
      · next existing hx =>
        split at h
        · next heq => cases h; exact .inr ⟨_, hd, .inl ⟨by rw [hx, heq], rfl⟩⟩
        · cases h
      · next hn => exact .inr ⟨_, hd, .inr (applyExecution_ok hn h)⟩
    · cases h
  · cases h

theorem Delivers.unique {e' : AppliedExecution} (h : Delivers d e) (h' : Delivers d e') : e = e' := by
  obtain ⟨_, h₁, h₂, h₃⟩ := h; obtain ⟨_, h₁', h₂', h₃'⟩ := h'
  cases e; cases e'; simp_all

/-- A delivery whose execution is applied already: the identity on equal content,
refused otherwise. -/
theorem applyTradeUpdate_again {existing : AppliedExecution} (hd : Delivers d e)
    (hx : st.appliedExecutions.get? e.fill.fillId = some existing) : applyTradeUpdate st d.1 d.2 =
      if existing = e then .ok st else .error (.conflictingDuplicate e.fill.fillId) := by
  obtain ⟨hf, hfill, hq, hr⟩ := hd
  have hne : ¬ (d.1.event = .tradeBust ∨ d.1.event = .tradeCorrect) := by
    rintro (he | he) <;> simp [he, TradeUpdateEvent.isFill] at hf
  unfold applyTradeUpdate; rw [if_neg hne, if_neg (by simp [hf])]
  simp only [hfill, hq, hr]; rw [dif_pos e.reference_pos]; simp only [hx]

/-! ## What booking does to the totals -/

variable {symbol : String}

theorem currentAverage_of_quantity {ps : Positions}
    (h : currentQuantity ps symbol ≠ 0) : currentAverage ps symbol ≠ none := by
  unfold currentQuantity Table.valueAt at h; unfold currentAverage
  cases hg : ps.get? symbol with
  | none => simp [hg] at h
  | some p => simp

theorem valueAt_basis (ps : Positions) (symbol : String) :
    ps.valueAt (fun p => p.quantity * p.averageCost) symbol =
      basis (currentQuantity ps symbol) (currentAverage ps symbol) := by
  unfold Table.valueAt currentQuantity currentAverage basis Table.valueAt
  cases ps.get? symbol <;> simp

/-- The written positions hold the new quantity at the symbol and the old ones elsewhere. -/
theorem nextPositions_quantity {ps ps' : Positions} {n : ℚ} {a : Option ℚ}
    (h : nextPositions ps symbol n a = some ps') (s : String) :
    currentQuantity ps' s = if s = symbol then n else currentQuantity ps s := by
  unfold nextPositions at h; split at h
  · next hn =>
    cases h; unfold currentQuantity Table.valueAt; rw [Table.get?_erase]
    by_cases hs : s = symbol <;> simp [hs, hn]
  · split at h
    · cases h
    split at h
    · cases h; unfold currentQuantity Table.valueAt; rw [Table.get?_upsert]
      by_cases hs : s = symbol
      · simp [hs]
      · simp [hs, Ne.symm hs]
    · cases h

theorem nextPositions_total {ps ps' : Positions} {n : ℚ} {a : Option ℚ}
    (h : nextPositions ps symbol n a = some ps') : ps'.total (fun p => p.quantity * p.averageCost) =
      (ps.erase symbol).total (fun p => p.quantity * p.averageCost) + basis n a := by
  unfold nextPositions at h; split at h
  · next hn => cases h; simp [basis, hn]
  split at h
  · cases h
  split at h
  · cases h; rw [Table.total_upsert]; simp [basis]
  · cases h

theorem Booked.quantity (h : Booked st e st') (symbol : String) : quantityOf st' symbol =
      quantityOf st symbol + if e.fill.symbol = symbol then e.fill.signedQuantity else 0 := by
  obtain ⟨_, hagree, ps, realized, _, hps, rfl⟩ := h
  have hsort : quantityOf (book st e ps realized) symbol = currentQuantity ps symbol := by
    simp [quantityOf, book, normalizePositions, currentQuantity, Table.valueAt, Table.get?_sort]
  rw [hsort, nextPositions_quantity hps]; by_cases hs : symbol = e.fill.symbol
  · subst hs; simp [hagree]
  · simp [hs, Ne.symm hs, quantityOf]

theorem book_costBasis {ps : Positions} {realized : ℚ}
    (hagree : quantityOf st e.fill.symbol + e.fill.signedQuantity = e.positionQuantity)
    (hr : realizedFillPnl (quantityOf st e.fill.symbol)
      (currentAverage st.positions e.fill.symbol) e.fill.signedQuantity e.fill.price =
        some realized) (hps : nextPositions st.positions e.fill.symbol e.positionQuantity
      (averageAfterFill (quantityOf st e.fill.symbol)
        (currentAverage st.positions e.fill.symbol) e.fill.signedQuantity e.fill.price) = some ps) :
    ps.total (fun p => p.quantity * p.averageCost) =
      st.positions.total (fun p => p.quantity * p.averageCost) +
        e.fill.signedQuantity * e.fill.price + realized := by
  unfold quantityOf at hagree hr hps
  have hbook := averageAfterFill_book e.fill.signedQuantity_ne_zero
    (fun h => currentAverage_of_quantity h) hr
  rw [hagree] at hbook
  rw [nextPositions_total hps, Table.total_split st.positions _ e.fill.symbol, valueAt_basis,
    hbook]
  ring

theorem knownFee_of_known (h : e.fill.feeSource ≠ .unknown) : ∃ fee, knownFee e.fill = some fee := by
  unfold knownFee; rw [if_neg h]
  exact Option.ne_none_iff_exists'.1 (e.fill.fee_valid.1 h).1

/-- **One execution balances.** With a known fee, cash plus cost basis minus
realized P&L stays as it was and the fee total grows by the fee. -/
theorem Booked.bookValue (h : Booked st e st') (hfee : e.fill.feeSource ≠ .unknown) :
    bookValue st' = bookValue st ∧
    st'.feesPaid = st.feesPaid.map (· + (knownFee e.fill).getD 0) := by
  obtain ⟨_, hagree, ps, realized, hr, hps, rfl⟩ := h
  obtain ⟨fee, hf⟩ := knownFee_of_known hfee
  have hcost := book_costBasis hagree hr hps; constructor
  · unfold Accounting.bookValue book
    simp only [hf, Option.map_some, normalizePositions, Table.total_sort, hcost]
    cases st.cash with
    | none => rfl
    | some c =>
      cases st.realizedPnl with
      | none => rfl
      | some r => simp only [Option.bind_some, Option.map_some, Option.some.injEq]; ring
  · simp only [book, hf, Option.map_some, Option.getD_some]
    cases st.feesPaid <;> rfl

theorem Booked.unknown (h : Booked st e st') (hfee : e.fill.feeSource = .unknown) :
    st'.cash = none ∧ st'.realizedPnl = none ∧ st'.feesPaid = none := by
  obtain ⟨_, _, ps, realized, _, _, rfl⟩ := h
  have hf : knownFee e.fill = none := by simp [knownFee, hfee]
  simp [book, hf]

theorem Booked.stays_unknown (h : Booked st e st') :
    (st.cash = none → st'.cash = none) ∧ (st.realizedPnl = none → st'.realizedPnl = none) ∧
    (st.feesPaid = none → st'.feesPaid = none) := by
  obtain ⟨_, _, ps, realized, _, _, rfl⟩ := h
  refine ⟨fun hc => ?_, fun hc => ?_, fun hc => ?_⟩ <;> simp [book, hc]

/-! ## Accepted sequences -/

theorem applyAll_cons {ds : List Delivery} (h : applyAll st (d :: ds) = .ok st') :
    ∃ s₁, applyTradeUpdate st d.1 d.2 = .ok s₁ ∧ applyAll s₁ ds = .ok st' := by
  unfold applyAll at h ⊢
  cases hd : applyTradeUpdate st d.1 d.2 with
  | error e => simp [hd, bind, Except.bind] at h
  | ok s₁ => exact ⟨s₁, rfl, by simpa [hd, bind, Except.bind] using h⟩

/-- What an accepted sequence leaves, with the executions it booked. -/
structure Ledger (st : PortfolioAccountingState) (new : List AppliedExecution)
    (st' : PortfolioAccountingState) : Prop where
  applied : st'.appliedExecutions.rows = st.appliedExecutions.rows ++ new
  known : (∀ e ∈ new, e.fill.feeSource ≠ .unknown) →
    bookValue st' = bookValue st ∧
    st'.feesPaid = st.feesPaid.map (· + (new.map fun e => (knownFee e.fill).getD 0).sum)
  quantity : ∀ symbol, quantityOf st' symbol = quantityOf st symbol +
    (new.map fun e => if e.fill.symbol = symbol then e.fill.signedQuantity else 0).sum
  unknown : (∃ e ∈ new, e.fill.feeSource = .unknown) →
    st'.cash = none ∧ st'.realizedPnl = none ∧ st'.feesPaid = none
  stays : (st.cash = none → st'.cash = none) ∧ (st.realizedPnl = none → st'.realizedPnl = none) ∧
    (st.feesPaid = none → st'.feesPaid = none)

theorem Ledger.refl (st : PortfolioAccountingState) : Ledger st [] st where
  applied := by simp
  known _ := ⟨rfl, by cases st.feesPaid <;> simp⟩
  quantity _ := by simp
  unknown h := by simp at h
  stays := ⟨id, id, id⟩

theorem Ledger.cons {s₁ : PortfolioAccountingState} {new : List AppliedExecution}
    (hb : Booked st e s₁) (hl : Ledger s₁ new st') : Ledger st (e :: new) st' where
  applied := by
    obtain ⟨hn, _, ps, realized, _, _, rfl⟩ := hb
    rw [hl.applied, book, Table.insert_rows hn]; simp
  known hk := by
    have hk' := List.forall_mem_cons.1 hk; obtain ⟨hv, hf⟩ := hb.bookValue hk'.1
    obtain ⟨hv', hf'⟩ := hl.known hk'.2; refine ⟨hv'.trans hv, ?_⟩
    rw [hf', hf, Option.map_map, List.map_cons, List.sum_cons]; congr 1
    funext x; simp [add_assoc]
  quantity symbol := by
    rw [hl.quantity, hb.quantity, List.map_cons, List.sum_cons, add_assoc]
  unknown := by
    rintro ⟨e', he', hu⟩; rcases List.mem_cons.1 he' with rfl | he'
    · obtain ⟨h₁, h₂, h₃⟩ := hb.unknown hu
      exact ⟨hl.stays.1 h₁, hl.stays.2.1 h₂, hl.stays.2.2 h₃⟩
    · exact hl.unknown ⟨e', he', hu⟩
  stays := by
    obtain ⟨h₁, h₂, h₃⟩ := hb.stays_unknown
    exact ⟨fun h => hl.stays.1 (h₁ h), fun h => hl.stays.2.1 (h₂ h), fun h => hl.stays.2.2 (h₃ h)⟩

/-- The run lemma: an accepted sequence has a ledger of executions it delivers, and
every execution it delivers is applied at the end. -/
theorem applyAll_ledger {ds : List Delivery} (h : applyAll st ds = .ok st') :
    ∃ new, Ledger st new st' ∧ (∀ e ∈ new, ∃ d ∈ ds, Delivers d e) ∧
      ∀ d ∈ ds, ∀ e, Delivers d e → e ∈ st'.appliedExecutions.rows := by
  induction ds generalizing st with
  | nil => cases h; exact ⟨[], Ledger.refl _, by simp, by simp⟩
  | cons d ds ih =>
    obtain ⟨s₁, hd, hds⟩ := applyAll_cons h
    obtain ⟨new, hl, hfrom, hall⟩ := ih hds
    have hkeep : ∀ e ∈ s₁.appliedExecutions.rows, e ∈ st'.appliedExecutions.rows := by
      intro e he; rw [hl.applied]; exact List.mem_append_left _ he
    rcases applyTradeUpdate_ok hd with ⟨hf, rfl⟩ | ⟨e, hde, ⟨hx, rfl⟩ | hb⟩
    · refine ⟨new, hl, fun e he => ?_, ?_⟩
      · obtain ⟨d', hd', hdel⟩ := hfrom e he
        exact ⟨d', List.mem_cons_of_mem _ hd', hdel⟩
      · refine List.forall_mem_cons.2 ⟨fun e hdel => ?_, hall⟩
        rw [hdel.1] at hf; cases hf
    · refine ⟨new, hl, fun e he => ?_, ?_⟩
      · obtain ⟨d', hd', hdel⟩ := hfrom e he
        exact ⟨d', List.mem_cons_of_mem _ hd', hdel⟩
      · refine List.forall_mem_cons.2 ⟨fun e' hdel => ?_, hall⟩
        rw [hdel.unique hde]; exact hkeep e (Table.get?_some hx).1
    · refine ⟨e :: new, hl.cons hb, ?_, ?_⟩
      · refine List.forall_mem_cons.2 ⟨⟨d, List.mem_cons_self, hde⟩, fun e' he' => ?_⟩
        obtain ⟨d', hd', hdel⟩ := hfrom e' he'
        exact ⟨d', List.mem_cons_of_mem _ hd', hdel⟩
      · refine List.forall_mem_cons.2 ⟨fun e' hdel => ?_, hall⟩
        rw [hdel.unique hde]; obtain ⟨hn, _, ps, realized, _, _, rfl⟩ := hb
        exact hkeep e ((Table.mem_insert hn).2 (.inr rfl))

/-- **The accounting identity.** Over every accepted sequence, from any account:
the executions booked are those delivered and not applied before; when their
fees are known, cash plus cost basis minus realized P&L is constant and the fee
total grows by the fees; every quantity is the initial one plus the signed fills,
and no zero position is kept; one unknown fee makes cash, realized P&L and the
fee total unknown from then on; and redelivering an applied execution is the
identity on equal content, refused with the state kept on any other. -/
theorem accounting_identity (st st' : PortfolioAccountingState) (ds : List Delivery)
    (h : applyAll st ds = .ok st') : (∃ new,
      st'.appliedExecutions.rows = st.appliedExecutions.rows ++ new ∧
      (∀ e ∈ new, ∃ d ∈ ds, Delivers d e) ∧
      (∀ d ∈ ds, ∀ e, Delivers d e → e ∈ st'.appliedExecutions.rows) ∧
      ((∀ e ∈ new, e.fill.feeSource ≠ .unknown) → bookValue st' = bookValue st ∧
        st'.feesPaid = st.feesPaid.map (· + (new.map fun e => (knownFee e.fill).getD 0).sum)) ∧
      (∀ symbol, quantityOf st' symbol = quantityOf st symbol +
        (new.map fun e => if e.fill.symbol = symbol then e.fill.signedQuantity else 0).sum) ∧
      ((∃ e ∈ new, e.fill.feeSource = .unknown) →
        st'.cash = none ∧ st'.realizedPnl = none ∧ st'.feesPaid = none)) ∧
    (∀ p ∈ st'.positions.rows, p.quantity ≠ 0) ∧
    (∀ d e, Delivers d e → e ∈ st'.appliedExecutions.rows →
      applyTradeUpdate st' d.1 d.2 = .ok st') ∧
    (∀ d e existing, Delivers d e → existing ∈ st'.appliedExecutions.rows →
      existing.fill.fillId = e.fill.fillId → existing ≠ e →
      applyTradeUpdate st' d.1 d.2 = .error (.conflictingDuplicate e.fill.fillId) ∧
      applyOrKeep st' d = st') := by
  refine ⟨?_, fun p _ => p.quantity_ne, ?_, ?_⟩
  · obtain ⟨new, hl, hfrom, hall⟩ := applyAll_ledger h
    exact ⟨new, hl.applied, hfrom, hall, hl.known, hl.quantity, hl.unknown⟩
  · intro d e hd he
    rw [applyTradeUpdate_again hd (Table.get?_eq_some.2 ⟨he, rfl⟩), if_pos rfl]
  · intro d e existing hd he hid hne
    have hx := applyTradeUpdate_again hd (Table.get?_eq_some.2 ⟨he, hid⟩)
    rw [if_neg hne] at hx
    exact ⟨hx, by simp [applyOrKeep, hx, Except.toOption]⟩

/-! ## A round trip through zero -/

/-- A fill with a broker-reported fee. -/
def reportedFill (fillId : String) (side : OrderSide) (quantity price : ℚ)
    (hq : 0 < quantity := by decide) (hp : 0 < price := by decide) : Fill where
  fillId := fillId
  brokerOrderId := "broker-order-1"
  symbol := "SPY"
  side := side
  quantity := quantity
  price := price
  occurredAt := 0
  fee := some 1
  feeSource := .brokerReported
  feeReference := some "activity-1"
  quantity_pos := hq
  price_pos := hp
  fee_nonneg := by simp
  fee_valid := by decide

def fillDelivery (fill : Fill) (positionQuantity : ℚ) : Delivery :=
  ({ event := .fill
     eventId := "event"
     order := OrderEvents.workedOrder
     occurredAt := 0
     fill := some fill
     positionQuantity := some positionQuantity
     connectionGeneration := 0
     fill_shape := by simp [TradeUpdateEvent.isFill]
     eventId_text := by decide }, none)

/-- Buy 4 at 100, then sell 6 at 110: a long closed and flipped short. -/
def flip : List Delivery :=
  [fillDelivery (reportedFill "f1" .buy 4 100 L1.lot_pos L1.hundred_pos) 4,
    fillDelivery (reportedFill "f2" .sell 6 110 (by decide) L1.dear_pos) (-2)]

def opening : PortfolioAccountingState where
  cash := some 1000
  realizedPnl := some 0
  fees_nonneg := by simp
  slippage_nonneg := le_rfl

theorem accounting_identity_flip :
    ∃ st', applyAll opening flip = .ok st' ∧ bookValue st' = bookValue opening ∧
      (∀ p ∈ st'.positions.rows, p.quantity ≠ 0) ∧
      (∀ e, Delivers (fillDelivery (reportedFill "f1" .buy 4 100) 4) e →
        applyTradeUpdate st' (fillDelivery (reportedFill "f1" .buy 4 100) 4).1 none = .ok st') := by
  have hok : (applyAll opening flip).toOption.isSome = true := by decide +kernel
  cases h : applyAll opening flip with
  | error e => rw [h] at hok; cases hok
  | ok st' =>
    obtain ⟨⟨new, _, hfrom, hall, hknown, _⟩, hzero, hagain, _⟩ := accounting_identity opening st' flip h
    refine ⟨st', rfl, (hknown fun e he => ?_).1, hzero, fun e he => ?_⟩
    · obtain ⟨d, hd, _, hfill, _⟩ := hfrom e he
      simp only [flip, List.mem_cons, List.not_mem_nil, or_false] at hd
      rcases hd with rfl | rfl
      · rw [← Option.some.inj hfill]; decide
      · rw [← Option.some.inj hfill]; decide
    · exact hagain _ e he (hall _ (by simp [flip]) e he)

end Quantbot.L3.Accounting
