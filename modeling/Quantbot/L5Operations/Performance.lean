import Mathlib.Algebra.BigOperators.Group.Finset.Basic
import Mathlib.Data.String.Basic
import Quantbot.Core.Ordered
import Quantbot.Core.Txn
import Quantbot.L3Execution.Accounting

/-!
# The two performance analyses

`analyze_fills` and `analyze_gross_cycles` walk one ledger of fills, each with its own book of
open positions. Where every fee is known, what the first keeps of a position determines what the
second does, step for step.

`analyses_agree`: they accept the same sets and report the same cycles; the movements sum to the
money that passed and the basis of what is open; nothing is ever short; and neither depends on
the order of the fills.
-/
namespace Quantbot.L5.Performance

open Core L1 Txn
open Quantbot.L3.Accounting (knownFee reportedFill)

/-- mirrors reporting/performance.py:44-57 -/
structure PositionTransition where
  symbol : String
  occurredAt : Int

structure RealizedMovement where
  symbol : String
  occurredAt : Int
  amount : ℚ

/-- mirrors backtest/metrics.py:32-53 -/
structure TradeOutcome where
  symbol : String
  openedAt : Int
  closedAt : Int
  grossPnl : ℚ
  netPnl : ℚ
  costs : ℚ
  notional : ℚ

/-- The validators of a `TradeOutcome`. -/
def TradeOutcome.validated (t : TradeOutcome) : Except String TradeOutcome :=
  if t.closedAt < t.openedAt then .error "trade cannot close before it opens"
  else if t.costs < 0 then .error "costs must be greater than or equal to 0"
  else if t.notional ≤ 0 then .error "notional must be greater than 0"
  else if t.netPnl ≠ t.grossPnl - t.costs then
    .error "trade net_pnl must equal gross_pnl less costs"
  else .ok t

structure FillLedgerAnalysis where
  completedTrades : List TradeOutcome
  entries : List PositionTransition
  exits : List PositionTransition
  realizedMovements : List RealizedMovement

structure GrossCycle where
  symbol : String
  grossPnl : ℚ
  netPnl : Option ℚ
  costs : Option ℚ

/-- `(f.occurred_at, f.fill_id)` -/
def Before (a b : Fill) : Prop := toLex (a.occurredAt, a.fillId) ≤ toLex (b.occurredAt, b.fillId)
deriving Decidable

def ordered (fills : List Fill) : List Fill := fills.insertionSort Before

def exceeds (symbol : String) : String :=
  "sell fill exceeds the durable long position for " ++ symbol

/-! ## Gross cycles -/

/-- What is held of one symbol. -/
structure Held where
  quantity : ℚ
  basis : ℚ
  gross : ℚ
  costs : Option ℚ

structure GrossWalk where
  held : String → Option Held := fun _ => none
  closed : List GrossCycle := []

/-- mirrors reporting/performance.py:75-87 -/
def Held.after (h : Held) (fill : Fill) : Except String Held :=
  let costs := h.costs.bind fun costs => (knownFee fill).map (costs + ·)
  match fill.side with
  | .buy =>
    .ok { quantity := h.quantity + fill.quantity
          basis := (h.quantity * h.basis + fill.quantity * fill.price) /
            (h.quantity + fill.quantity)
          gross := h.gross
          costs := costs }
  | .sell =>
    if h.quantity < fill.quantity then .error (exceeds fill.symbol)
    else .ok { quantity := h.quantity - fill.quantity
               basis := h.basis
               gross := h.gross + (fill.price - h.basis) * fill.quantity
               costs := costs }

/-- mirrors reporting/performance.py:88-99 -/
def grossStep (w : GrossWalk) (fill : Fill) : Except String GrossWalk := do
  let next ← ((w.held fill.symbol).getD ⟨0, 0, 0, some 0⟩).after fill
  if next.quantity = 0 then
    .ok { held := Function.update w.held fill.symbol none
          closed := w.closed ++
            [⟨fill.symbol, next.gross, next.costs.map (next.gross - ·), next.costs⟩] }
  else .ok { w with held := Function.update w.held fill.symbol (some next) }

/-- mirrors reporting/performance.py:65-100 -/
def analyzeGrossCycles (fills : List Fill) : Except String (List GrossCycle) :=
  if ¬ (fills.map (·.fillId)).Nodup then .error "fill identifiers must be unique"
  else (·.closed) <$> (ordered fills).foldlM grossStep {}

/-! ## The full ledger -/

/-- mirrors reporting/performance.py:103-111 -/
structure OpenCycle where
  quantity : ℚ
  averagePrice : ℚ
  openedAt : Int
  entryNotional : ℚ
  cycleGross : ℚ
  cycleCosts : ℚ

def OpenCycle.ofFill (fill : Fill) (fee : ℚ) : OpenCycle :=
  ⟨fill.quantity, fill.price, fill.occurredAt, fill.quantity * fill.price, 0, fee⟩

def OpenCycle.add (c : OpenCycle) (fill : Fill) (fee : ℚ) : OpenCycle :=
  { c with
    quantity := c.quantity + fill.quantity
    averagePrice := (c.quantity * c.averagePrice + fill.quantity * fill.price) /
      (c.quantity + fill.quantity)
    entryNotional := c.entryNotional + fill.quantity * fill.price
    cycleCosts := c.cycleCosts + fee }

def OpenCycle.reduce (c : OpenCycle) (fill : Fill) (fee : ℚ) : OpenCycle :=
  { c with
    quantity := c.quantity - fill.quantity
    cycleGross := c.cycleGross + (fill.price - c.averagePrice) * fill.quantity
    cycleCosts := c.cycleCosts + fee }

/-- The trade of a cycle that a fill closes. -/
def OpenCycle.trade (c : OpenCycle) (fill : Fill) : TradeOutcome where
  symbol := fill.symbol
  openedAt := c.openedAt
  closedAt := fill.occurredAt
  grossPnl := c.cycleGross
  netPnl := c.cycleGross - c.cycleCosts
  costs := c.cycleCosts
  notional := c.entryNotional

structure Walk where
  openCycles : String → Option OpenCycle := fun _ => none
  analysis : FillLedgerAnalysis := ⟨[], [], [], []⟩

def Walk.moved (w : Walk) (fill : Fill) (amount : ℚ) (cycle : Option OpenCycle) : Walk where
  openCycles := Function.update w.openCycles fill.symbol cycle
  analysis := { w.analysis with
    realizedMovements := w.analysis.realizedMovements ++ [⟨fill.symbol, fill.occurredAt, amount⟩] }

/-- mirrors reporting/performance.py:126-178 -/
def fillStep (w : Walk) (fill : Fill) : Except String Walk :=
  match knownFee fill with
  | none => .error "fee evidence unavailable; net performance cannot be reported"
  | some fee =>
    match fill.side, w.openCycles fill.symbol with
    | .buy, none =>
      let next := w.moved fill (-fee) (some (.ofFill fill fee))
      .ok { next with analysis := { next.analysis with
        entries := next.analysis.entries ++ [⟨fill.symbol, fill.occurredAt⟩] } }
    | .buy, some c => .ok (w.moved fill (-fee) (some (c.add fill fee)))
    | .sell, none => .error (exceeds fill.symbol)
    | .sell, some c =>
      if c.quantity < fill.quantity then .error (exceeds fill.symbol)
      else
        let amount := (fill.price - c.averagePrice) * fill.quantity - fee
        let c := c.reduce fill fee
        if c.quantity ≠ 0 then .ok (w.moved fill amount (some c))
        else do
          let trade ← (c.trade fill).validated
          let next := w.moved fill amount none
          .ok { next with analysis := { next.analysis with
            exits := next.analysis.exits ++ [⟨fill.symbol, fill.occurredAt⟩]
            completedTrades := next.analysis.completedTrades ++ [trade] } }

/-- The walk over the ledger in its order. -/
def walk (fills : List Fill) : Except String Walk :=
  if ¬ (fills.map (·.fillId)).Nodup then .error "fill identifiers must be unique"
  else (ordered fills).foldlM fillStep {}

/-- mirrors reporting/performance.py:114-185 -/
def analyzeFills (fills : List Fill) : Except String FillLedgerAnalysis :=
  (·.analysis) <$> walk fills

/-! ## One step -/

section step

variable {w w' : Walk} {fill : Fill} {t : Int} {fee : ℚ}

def OpenCycle.held (c : OpenCycle) : Held :=
  ⟨c.quantity, c.averagePrice, c.cycleGross, some c.cycleCosts⟩

def TradeOutcome.cycle (t : TradeOutcome) : GrossCycle :=
  ⟨t.symbol, t.grossPnl, some t.netPnl, some t.costs⟩

/-- What the gross analysis keeps of a walk. -/
def Walk.gross (w : Walk) : GrossWalk where
  held symbol := (w.openCycles symbol).map OpenCycle.held
  closed := w.analysis.completedTrades.map TradeOutcome.cycle

/-- What a step may rely on of each open cycle, at a time. -/
structure OpenCycle.Good (t : Int) (c : OpenCycle) : Prop where
  quantity : 0 < c.quantity
  notional : 0 < c.entryNotional
  costs : 0 ≤ c.cycleCosts
  opened : c.openedAt ≤ t

def Walk.Good (t : Int) (w : Walk) : Prop :=
  ∀ symbol c, w.openCycles symbol = some c → c.Good t

theorem knownFee_nonneg (h : knownFee fill = some fee) : 0 ≤ fee := by
  unfold knownFee at h; split at h
  · cases h
  · exact fill.fee_nonneg fee h

theorem gross_moved (amount : ℚ) (cycle : Option OpenCycle) (closed : List GrossCycle) :
    (⟨Function.update w.gross.held fill.symbol (cycle.map OpenCycle.held), closed⟩ : GrossWalk) =
      ⟨(w.moved fill amount cycle).gross.held, closed⟩ := by
  congr 1; funext symbol; unfold Walk.gross Walk.moved
  by_cases h : symbol = fill.symbol
  · subst h; simp
  · simp [h]

theorem good_moved (amount : ℚ) (cycle : Option OpenCycle) (hgood : w.Good t)
    (ht : t ≤ fill.occurredAt) (hc : ∀ c, cycle = some c → c.Good fill.occurredAt) :
    (w.moved fill amount cycle).Good fill.occurredAt := by
  intro symbol c hcycle; by_cases h : symbol = fill.symbol
  · subst h; exact hc c (by simpa [Walk.moved] using hcycle)
  · have hold := hgood symbol c (by simpa [Walk.moved, h] using hcycle)
    exact { hold with opened := hold.opened.trans ht }

theorem add_good {c : OpenCycle} (hc : c.Good t) (ht : t ≤ fill.occurredAt) (hfee : 0 ≤ fee) :
    (c.add fill fee).Good fill.occurredAt where
  quantity := add_pos hc.quantity fill.quantity_pos
  notional := add_pos hc.notional (mul_pos fill.quantity_pos fill.price_pos)
  costs := add_nonneg hc.costs hfee
  opened := hc.opened.trans ht

/-- The trade of a cycle passes its validators. -/
theorem trade_validated {c : OpenCycle} (hc : c.Good t) (ht : t ≤ fill.occurredAt)
    (hfee : 0 ≤ fee) :
    ((c.reduce fill fee).trade fill).validated = .ok ((c.reduce fill fee).trade fill) := by
  have hcosts : 0 ≤ c.cycleCosts + fee := add_nonneg hc.costs hfee
  unfold TradeOutcome.validated
  exact (if_neg (not_lt.2 (hc.opened.trans ht))).trans ((if_neg (not_lt.2 hcosts)).trans
    ((if_neg (not_le.2 hc.notional)).trans (if_neg (not_not.2 rfl))))

/-- What a step comes to, on either side. -/
inductive Stepped (w : Walk) (fill : Fill) (fee : ℚ) : Walk → Prop
  | opened (h : fill.side = .buy) (hnone : w.openCycles fill.symbol = none) (w')
      (hw : w' = w.moved fill (-fee) (some (.ofFill fill fee))) (entries) :
      Stepped w fill fee { w' with analysis := { w'.analysis with entries := entries } }
  | added (h : fill.side = .buy) (c) (hc : w.openCycles fill.symbol = some c) :
      Stepped w fill fee (w.moved fill (-fee) (some (c.add fill fee)))
  | reduced (h : fill.side = .sell) (c) (hc : w.openCycles fill.symbol = some c)
      (hlt : fill.quantity < c.quantity) :
      Stepped w fill fee (w.moved fill ((fill.price - c.averagePrice) * fill.quantity - fee)
        (some (c.reduce fill fee)))
  | closed (h : fill.side = .sell) (c) (hc : w.openCycles fill.symbol = some c)
      (heq : c.quantity = fill.quantity) (w')
      (hw : w' = w.moved fill ((fill.price - c.averagePrice) * fill.quantity - fee) none) (exits) :
      Stepped w fill fee { w' with analysis := { w'.analysis with
        exits := exits
        completedTrades := w.analysis.completedTrades ++ [(c.reduce fill fee).trade fill] } }

theorem after_opened (hside : fill.side = .buy) (hfee : knownFee fill = some fee) :
    (⟨0, 0, 0, some 0⟩ : Held).after fill = .ok (OpenCycle.ofFill fill fee).held := by
  have hquantity := fill.quantity_pos.ne'; unfold Held.after; rw [hside, hfee]
  simp [OpenCycle.held, OpenCycle.ofFill, mul_div_cancel_left₀ fill.price hquantity]

theorem after_added (c : OpenCycle) (hside : fill.side = .buy) (hfee : knownFee fill = some fee) :
    c.held.after fill = .ok (c.add fill fee).held := by
  unfold Held.after; rw [hside, hfee]; rfl

theorem after_reduced (c : OpenCycle) (hside : fill.side = .sell)
    (hfee : knownFee fill = some fee) :
    c.held.after fill = if c.quantity < fill.quantity then .error (exceeds fill.symbol)
      else .ok (c.reduce fill fee).held := by
  unfold Held.after; rw [hside, hfee]; rfl

/-- **One fill**: the two analyses refuse it alike, or take the same step. -/
theorem step_agrees (hgood : w.Good t) (ht : t ≤ fill.occurredAt)
    (hfee : knownFee fill = some fee) :
    (∃ e, fillStep w fill = .error e ∧ grossStep w.gross fill = .error e) ∨
      ∃ w', fillStep w fill = .ok w' ∧ Stepped w fill fee w' ∧
        grossStep w.gross fill = .ok w'.gross := by
  have hnonneg := knownFee_nonneg hfee; have hquantity := fill.quantity_pos
  have hheld : w.gross.held fill.symbol = (w.openCycles fill.symbol).map OpenCycle.held := rfl
  unfold fillStep grossStep; rw [hfee, hheld]; dsimp only
  cases hside : fill.side with
  | buy =>
    cases hopen : w.openCycles fill.symbol with
    | none =>
      refine .inr ⟨_, rfl, .opened hside hopen _ rfl _, ?_⟩
      rw [show (none : Option OpenCycle).map OpenCycle.held = none from rfl, Option.getD_none,
        after_opened hside hfee]
      exact (if_neg hquantity.ne').trans
        (congrArg Except.ok (gross_moved (-fee) (some (.ofFill fill fee)) _))
    | some c =>
      have hc := hgood _ _ hopen; refine .inr ⟨_, rfl, .added hside c hopen, ?_⟩
      rw [Option.map_some, Option.getD_some, after_added c hside hfee]
      exact (if_neg (add_pos hc.quantity hquantity).ne').trans
        (congrArg Except.ok (gross_moved (-fee) (some (c.add fill fee)) _))
  | sell =>
    cases hopen : w.openCycles fill.symbol with
    | none =>
      refine .inl ⟨_, rfl, ?_⟩; unfold Held.after; rw [hside]
      simp only [Option.map_none, Option.getD_none, if_pos hquantity]; rfl
    | some c =>
      have hc := hgood _ _ hopen; dsimp only
      rw [Option.map_some, Option.getD_some, after_reduced c hside hfee]
      by_cases hexceeds : c.quantity < fill.quantity
      · rw [if_pos hexceeds, if_pos hexceeds]; exact .inl ⟨_, rfl, rfl⟩
      rw [if_neg hexceeds, if_neg hexceeds]
      by_cases hclosed : (c.reduce fill fee).quantity = 0
      · rw [if_neg (not_not.2 hclosed), trade_validated hc ht hnonneg]
        refine .inr ⟨_, rfl, .closed hside c hopen (sub_eq_zero.1 hclosed) _ rfl _, ?_⟩
        refine (if_pos hclosed).trans (congrArg Except.ok ?_)
        refine (gross_moved ((fill.price - c.averagePrice) * fill.quantity - fee) none _).trans ?_
        have htrades : w.gross.closed ++ [((c.reduce fill fee).trade fill).cycle] =
            (w.analysis.completedTrades ++ [(c.reduce fill fee).trade fill]).map
              TradeOutcome.cycle := by simp [Walk.gross]
        exact congrArg (GrossWalk.mk _) htrades
      · rw [if_pos hclosed]; refine .inr ⟨_, rfl, .reduced hside c hopen ?_, ?_⟩
        · exact lt_of_le_of_ne (not_lt.1 hexceeds) fun h => hclosed (sub_eq_zero.2 h.symm)
        · exact (if_neg hclosed).trans
            (congrArg Except.ok (gross_moved _ (some (c.reduce fill fee)) _))

theorem Stepped.good (h : Stepped w fill fee w') (hgood : w.Good t) (ht : t ≤ fill.occurredAt)
    (hfee : 0 ≤ fee) : w'.Good fill.occurredAt := by
  have hnew : (OpenCycle.ofFill fill fee).Good fill.occurredAt :=
    ⟨fill.quantity_pos, mul_pos fill.quantity_pos fill.price_pos, hfee, le_rfl⟩
  cases h with
  | opened _ _ _ hw =>
    subst hw
    exact good_moved (-fee) _ hgood ht fun _ h => Option.some.inj h ▸ hnew
  | added _ c hc =>
    exact good_moved _ _ hgood ht fun _ h =>
      Option.some.inj h ▸ add_good (hgood _ _ hc) ht hfee
  | reduced _ c hc hlt =>
    have hopen := hgood _ _ hc
    exact good_moved _ _ hgood ht fun _ h => Option.some.inj h ▸ ⟨sub_pos.2 hlt, hopen.notional,
      add_nonneg hopen.costs hfee, hopen.opened.trans ht⟩
  | closed _ c _ _ _ hw =>
    subst hw
    exact good_moved ((fill.price - c.averagePrice) * fill.quantity - fee) none hgood ht
      fun _ h => absurd h.symm (Option.some_ne_none _)

/-! ## The books -/

/-- The weighted cost basis of what is open. -/
def Walk.openBasis (w : Walk) (symbols : Finset String) : ℚ :=
  ∑ symbol ∈ symbols, (w.openCycles symbol).elim 0 fun c => c.quantity * c.averagePrice

def Walk.realized (w : Walk) : ℚ := (w.analysis.realizedMovements.map (·.amount)).sum

def Walk.quantity (w : Walk) (symbol : String) : ℚ :=
  (w.openCycles symbol).elim 0 OpenCycle.quantity

/-- The money a fill brings in. -/
def proceeds (fill : Fill) : ℚ :=
  (match fill.side with
  | .buy => -(fill.quantity * fill.price)
  | .sell => fill.quantity * fill.price) - fill.fee.getD 0

theorem openBasis_moved {symbols : Finset String} (hmem : fill.symbol ∈ symbols) (amount : ℚ)
    (cycle : Option OpenCycle) : (w.moved fill amount cycle).openBasis symbols =
      w.openBasis symbols - (w.openCycles fill.symbol).elim 0 (fun c => c.quantity * c.averagePrice) +
        cycle.elim 0 fun c => c.quantity * c.averagePrice := by
  unfold Walk.openBasis
  rw [← Finset.add_sum_erase _ _ hmem, ← Finset.add_sum_erase symbols (fun symbol =>
    (w.openCycles symbol).elim 0 fun c => c.quantity * c.averagePrice) hmem]
  have hrest : ∀ symbol ∈ symbols.erase fill.symbol,
      (w.moved fill amount cycle).openCycles symbol = w.openCycles symbol := by
    intro symbol hsymbol
    exact Function.update_of_ne (Finset.ne_of_mem_erase hsymbol) _ _
  have hself : (w.moved fill amount cycle).openCycles fill.symbol = cycle :=
    Function.update_self _ _ _
  rw [hself, Finset.sum_congr rfl fun symbol hsymbol => by rw [hrest symbol hsymbol]]
  ring

theorem realized_moved (amount : ℚ) (cycle : Option OpenCycle) :
    (w.moved fill amount cycle).realized = w.realized + amount := by
  simp [Walk.realized, Walk.moved]

theorem quantity_moved (amount : ℚ) (cycle : Option OpenCycle) (symbol : String) :
    (w.moved fill amount cycle).quantity symbol =
      if symbol = fill.symbol then cycle.elim 0 OpenCycle.quantity else w.quantity symbol := by
  unfold Walk.quantity Walk.moved; by_cases h : symbol = fill.symbol
  · subst h; simp
  · simp [h]

theorem Stepped.books (h : Stepped w fill fee w') (hgood : w.Good t)
    (hfee : fill.fee = some fee) {symbols : Finset String} (hmem : fill.symbol ∈ symbols) :
    w'.realized - w'.openBasis symbols = w.realized - w.openBasis symbols + proceeds fill ∧
      ∀ symbol, w'.quantity symbol = w.quantity symbol +
        if symbol = fill.symbol then fill.signedQuantity else 0 := by
  have hmoved : ∀ amount cycle, (w.openCycles fill.symbol).elim 0
      (fun c => c.quantity * c.averagePrice) + amount = proceeds fill +
        (cycle.elim 0 fun c => c.quantity * c.averagePrice) →
      (w.openCycles fill.symbol).elim 0 OpenCycle.quantity + fill.signedQuantity =
        cycle.elim 0 OpenCycle.quantity →
      (w.moved fill amount cycle).realized - (w.moved fill amount cycle).openBasis symbols =
        w.realized - w.openBasis symbols + proceeds fill ∧
      ∀ symbol, (w.moved fill amount cycle).quantity symbol = w.quantity symbol +
        if symbol = fill.symbol then fill.signedQuantity else 0 := by
    intro amount cycle hmoney hquantity
    rw [openBasis_moved hmem, realized_moved]
    refine ⟨by linarith, fun symbol => ?_⟩; rw [quantity_moved]
    by_cases hsymbol : symbol = fill.symbol
    · rw [if_pos hsymbol, if_pos hsymbol, ← hquantity, hsymbol]; rfl
    · rw [if_neg hsymbol, if_neg hsymbol, add_zero]
  have hpositive := fill.quantity_pos
  cases h with
  | opened hside hnone _ hw =>
    subst hw
    refine hmoved (-fee) (some (.ofFill fill fee)) ?_ ?_ <;> rw [hnone]
    · simp only [proceeds, hside, hfee, OpenCycle.ofFill, Option.elim_some, Option.elim_none,
        Option.getD_some]
      ring
    · simp [Fill.signedQuantity, hside, OpenCycle.ofFill]
  | added hside c hc =>
    have hne : c.quantity + fill.quantity ≠ 0 := (add_pos (hgood _ _ hc).quantity hpositive).ne'
    refine hmoved _ _ ?_ ?_ <;> rw [hc]
    · simp only [proceeds, hside, hfee, OpenCycle.add, Option.elim_some, Option.getD_some]
      rw [mul_div_cancel₀ _ hne]; ring
    · simp [Fill.signedQuantity, hside, OpenCycle.add]
  | reduced hside c hc =>
    refine hmoved _ _ ?_ ?_ <;> rw [hc]
    · simp only [proceeds, hside, hfee, OpenCycle.reduce, Option.elim_some, Option.getD_some]
      ring
    · simp [Fill.signedQuantity, hside, OpenCycle.reduce, sub_eq_add_neg]
  | closed hside c hc heq _ hw =>
    subst hw
    refine hmoved ((fill.price - c.averagePrice) * fill.quantity - fee) none ?_ ?_ <;> rw [hc]
    · simp only [proceeds, hside, hfee, Option.elim_some, Option.elim_none, Option.getD_some, heq]
      ring
    · simp [Fill.signedQuantity, hside, heq]

end step

/-! ## The ledger -/

section ledger

variable {fills l : List Fill} {w : Walk} {t : Int}

def Known (fill : Fill) : Prop := fill.feeSource ≠ .unknown

theorem Known.fee {fill : Fill} (h : Known fill) :
    ∃ fee, fill.fee = some fee ∧ knownFee fill = some fee := by
  obtain ⟨fee, hfee⟩ := Option.ne_none_iff_exists'.1 (fill.fee_valid.1 h).1
  exact ⟨fee, hfee, (if_neg h).trans hfee⟩

/-- What is bought less what is sold of a symbol. -/
def position (l : List Fill) (symbol : String) : ℚ :=
  (l.map fun fill => if symbol = fill.symbol then fill.signedQuantity else 0).sum

/-- **A ledger in its order**: one refusal or one book for both. -/
theorem run_agrees (hgood : w.Good t) (ht : ∀ fill ∈ l, t ≤ fill.occurredAt)
    (hsorted : l.Pairwise fun a b => a.occurredAt ≤ b.occurredAt) (hknown : ∀ fill ∈ l, Known fill)
    {symbols : Finset String} (hmem : ∀ fill ∈ l, fill.symbol ∈ symbols) :
    (∃ e, l.foldlM fillStep w = .error e ∧ l.foldlM grossStep w.gross = .error e) ∨
      ∃ w' t', l.foldlM fillStep w = .ok w' ∧ l.foldlM grossStep w.gross = .ok w'.gross ∧
        w'.Good t' ∧ w'.realized - w'.openBasis symbols =
          w.realized - w.openBasis symbols + (l.map proceeds).sum ∧
        ∀ symbol, w'.quantity symbol = w.quantity symbol + position l symbol := by
  induction l generalizing w t with
  | nil => exact .inr ⟨w, t, rfl, rfl, hgood, by simp, by simp [position]⟩
  | cons fill rest ih =>
    obtain ⟨fee, hfee, hknownFee⟩ := (hknown fill List.mem_cons_self).fee
    have hstep := step_agrees hgood (ht fill List.mem_cons_self) hknownFee
    obtain ⟨hfirst, hrest⟩ := List.pairwise_cons.1 hsorted
    rw [List.foldlM_cons, List.foldlM_cons]
    rcases hstep with ⟨e, he, he'⟩ | ⟨w₁, hw₁, hstepped, hgross⟩
    · exact .inl ⟨e, by rw [he]; rfl, by rw [he']; rfl⟩
    obtain ⟨hmoney, hquantity⟩ := hstepped.books hgood hfee (hmem fill List.mem_cons_self)
    rw [hw₁, hgross]
    refine (ih (hstepped.good hgood (ht fill List.mem_cons_self) (knownFee_nonneg hknownFee))
      hfirst hrest (fun f hf => hknown f (List.mem_cons_of_mem _ hf))
      fun f hf => hmem f (List.mem_cons_of_mem _ hf)).imp id ?_
    rintro ⟨w', t', hw', hg', hgood', hmoney', hquantity'⟩
    refine ⟨w', t', hw', hg', hgood', ?_, fun symbol => ?_⟩
    · rw [hmoney', hmoney, List.map_cons, List.sum_cons]; ring
    · rw [hquantity', hquantity]
      simp only [position, List.map_cons, List.sum_cons]; ring

theorem proceeds_sum (l : List Fill) : (l.map proceeds).sum =
    ((l.filter (·.side = .sell)).map fun f => f.quantity * f.price).sum -
      ((l.filter (·.side = .buy)).map fun f => f.quantity * f.price).sum -
      (l.map fun f => f.fee.getD 0).sum := by
  induction l with
  | nil => simp
  | cons fill rest ih =>
    rw [List.map_cons, List.sum_cons, ih]
    cases hside : fill.side <;> simp [proceeds, hside] <;> ring

instance : Std.Total Before := ⟨fun _ _ => le_total _ _⟩

instance : IsTrans Fill Before := ⟨fun _ _ _ => le_trans⟩

theorem ordered_times (fills : List Fill) :
    (ordered fills).Pairwise fun a b => a.occurredAt ≤ b.occurredAt := by
  refine (List.pairwise_insertionSort Before fills).imp fun {a b} h => ?_
  rcases Prod.Lex.toLex_le_toLex.1 h with h | h
  · exact h.le
  · exact h.1.le

theorem ordered_perm (hids : (fills.map (·.fillId)).Nodup) (h : fills.Perm l) :
    ordered fills = ordered l := by
  refine insertionSort_congr h fun a ha b hb hab hba => ?_
  have hid : a.fillId = b.fillId := congrArg Prod.snd (toLex_inj.1 (le_antisymm hab hba))
  exact List.inj_on_of_nodup_map hids ha hb hid

theorem ledger_agrees (hknown : ∀ fill ∈ fills, Known fill) (hl : l.Sublist (ordered fills)) :
    (∃ e, l.foldlM fillStep {} = .error e ∧ l.foldlM grossStep {} = .error e) ∨
      ∃ w t, l.foldlM fillStep {} = .ok w ∧ l.foldlM grossStep {} = .ok w.gross ∧ w.Good t ∧
        w.realized - w.openBasis (fills.map (·.symbol)).toFinset = (l.map proceeds).sum ∧
        ∀ symbol, w.quantity symbol = position l symbol := by
  have hmem : ∀ fill ∈ l, fill ∈ fills := fun fill hfill =>
    (List.perm_insertionSort Before fills).mem_iff.1 (hl.subset hfill)
  have htimes := (ordered_times fills).sublist hl
  obtain ⟨t, ht⟩ : ∃ t : Int, ∀ fill ∈ l, t ≤ fill.occurredAt := by
    cases l with
    | nil => exact ⟨0, by simp⟩
    | cons first rest =>
      refine ⟨first.occurredAt, fun fill hfill => ?_⟩
      rcases List.mem_cons.1 hfill with rfl | hfill
      · exact le_rfl
      · exact (List.pairwise_cons.1 htimes).1 fill hfill
  have hsymbols : ∀ fill ∈ l, fill.symbol ∈ (fills.map (·.symbol)).toFinset := fun fill hfill =>
    List.mem_toFinset.2 (List.mem_map_of_mem (hmem fill hfill))
  have hrun := run_agrees (w := {}) (t := t) nofun ht htimes
    (fun fill hfill => hknown fill (hmem fill hfill)) hsymbols
  have hstart : Walk.realized {} - Walk.openBasis {} (fills.map (·.symbol)).toFinset = 0 := by
    simp [Walk.realized, Walk.openBasis]
  have hempty : Walk.gross {} = {} := rfl
  have hnone : ∀ symbol, Walk.quantity {} symbol = 0 := fun _ => rfl
  simpa only [hstart, hempty, hnone, zero_add] using hrun

/-- **The two analyses agree**, in the money of the ledger, and in every order of it. -/
theorem analyses_agree (fills : List Fill) (hids : (fills.map (·.fillId)).Nodup)
    (hknown : ∀ fill ∈ fills, fill.feeSource ≠ .unknown) : analyzeGrossCycles fills =
        (fun a => a.completedTrades.map TradeOutcome.cycle) <$> analyzeFills fills ∧
      (∀ w, walk fills = .ok w → (w.analysis.realizedMovements.map (·.amount)).sum =
            ((fills.filter (·.side = .sell)).map fun f => f.quantity * f.price).sum -
              ((fills.filter (·.side = .buy)).map fun f => f.quantity * f.price).sum -
              (fills.map fun f => f.fee.getD 0).sum + w.openBasis (fills.map (·.symbol)).toFinset ∧
          ∀ before after symbol, ordered fills = before ++ after → 0 ≤ position before symbol) ∧
      ∀ fills', fills.Perm fills' → analyzeFills fills' = analyzeFills fills ∧
        analyzeGrossCycles fills' = analyzeGrossCycles fills := by
  have hsort : (ordered fills).Perm fills := List.perm_insertionSort Before fills
  refine ⟨?_, fun w hw => ⟨?_, fun before after symbol hsplit => ?_⟩, fun fills' hperm => ?_⟩
  · unfold analyzeFills analyzeGrossCycles walk
    rw [if_neg (not_not.2 hids), if_neg (not_not.2 hids)]
    rcases ledger_agrees hknown (List.Sublist.refl _) with ⟨e, he, he'⟩ | ⟨w, _, hw, hgross, -⟩
    · rw [he, he']; rfl
    · rw [hw, hgross]; rfl
  · unfold walk at hw; rw [if_neg (not_not.2 hids)] at hw
    rcases ledger_agrees hknown (List.Sublist.refl _) with
      ⟨e, he, -⟩ | ⟨w', _, hw', -, -, hmoney, -⟩
    · cases he.symm.trans hw
    cases hw'.symm.trans hw
    rw [(hsort.map proceeds).sum_eq, proceeds_sum] at hmoney
    show w.realized = _; linarith
  · unfold walk at hw
    rw [if_neg (not_not.2 hids), hsplit, List.foldlM_append] at hw
    obtain ⟨w₁, hw₁, -⟩ := except_bind_ok.1 hw
    rcases ledger_agrees (l := before) hknown (hsplit ▸ List.sublist_append_left _ _) with
      ⟨e, he, -⟩ | ⟨w', t', hw', -, hgood, -, hquantity⟩
    · cases he.symm.trans hw₁
    rw [← hquantity symbol]; unfold Walk.quantity
    cases hopen : w'.openCycles symbol with
    | none => exact le_rfl
    | some c => exact (hgood _ _ hopen).quantity.le
  · have hids' := (hperm.map (·.fillId)).nodup_iff.1 hids
    unfold analyzeFills analyzeGrossCycles walk
    simp only [hids, hids', not_true_eq_false, if_false, ordered_perm hids hperm, and_self]

end ledger

/-- Four bought and sold at one moment, the sale listed first. -/
def roundTrip : List Fill :=
  [reportedFill "b" .sell 4 110 L1.lot_pos L1.dear_pos, reportedFill "a" .buy 4 100 L1.lot_pos L1.hundred_pos]

theorem analyses_agree_roundTrip : ∃ w, walk roundTrip = .ok w ∧
    (w.analysis.realizedMovements.map (·.amount)).sum =
      440 - 400 - 2 + w.openBasis (roundTrip.map (·.symbol)).toFinset := by
  have hok : ∃ w, walk roundTrip = .ok w ∧ True := exists_ok (by decide +kernel)
  obtain ⟨w, hw, -⟩ := hok; refine ⟨w, hw, ?_⟩
  rw [((analyses_agree roundTrip (by decide) (by decide)).2.1 w hw).1]; congr 1
  decide +kernel

end Quantbot.L5.Performance
