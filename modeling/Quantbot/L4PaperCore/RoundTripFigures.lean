import Quantbot.Core.DecimalSums
import Quantbot.L4PaperCore.Economics

/-!
# What the figures of a round trip say

The figures of `Economics` against exact sums over the lot's fills. The 28 digits of the
decimal context are enough for all of them but the weighted entry basis, a quotient, while the
amounts of a lot are on one grid and have 27 digits together (`Held`).

* `openQuantity_held`, `goesShort_held`: the checks are then the exact ones.
* `figures_accounts`: the units a lot bought are those it sold and paid as fees, no prefix of
  its fills sells more than was bought, and the figures follow (`Accounts`).
-/
namespace Quantbot.L4.Economics

open Core L1 L2 L3
open Core.Decimal (OnGrid)

/-! ## Exact sums -/

namespace LotAccount

variable (x : LotAccount)

def fills : List Fill := x.trades.buys ++ x.trades.sells

def bought : ℚ := (x.trades.buys.map (·.quantity)).sum

def sold : ℚ := (x.trades.sells.map (·.quantity)).sum

def spent : ℚ := (x.trades.buys.map fun f => f.price * f.quantity).sum

def received : ℚ := (x.trades.sells.map fun f => f.price * f.quantity).sum

/-- The weighted entry basis of a unit. -/
def basis : ℚ := x.spent / x.bought

/-- Sale value less the entry basis of the units sold. -/
def gross : ℚ := x.received - x.basis * x.sold

end LotAccount

/-- Units of one side. -/
def unitsOf (side : OrderSide) (fills : List Fill) : ℚ :=
  ((fills.filter fun f => f.side = side).map (·.quantity)).sum

/-- Quantities, values and fees are multiples of `10⁻ᵏ`, and together have 27 digits. -/
structure Held (k : ℕ) (x : LotAccount) (fees : List ℚ) : Prop where
  quantities : ∀ f ∈ x.fills, OnGrid k f.quantity
  values : ∀ f ∈ x.fills, OnGrid k (f.price * f.quantity)
  assetFee : OnGrid k x.fees.quantity
  known : ∀ y ∈ fees, OnGrid k y
  small : (x.bought + x.sold + x.spent + x.received + |x.fees.quantity| +
    (fees.map abs).sum) * 10 ^ k < 10 ^ 27

section Sums

variable {x : LotAccount} {k : ℕ} {fees : List ℚ} {fills : List Fill} {g : Fill → ℚ}

theorem sum_nonneg_map (hg : ∀ f, 0 < g f) :
    0 ≤ (fills.map g).sum := List.sum_nonneg fun y hy => by
  obtain ⟨f, _, rfl⟩ := List.mem_map.1 hy
  exact (hg f).le

theorem value_pos (f : Fill) : 0 < f.price * f.quantity := mul_pos f.price_pos f.quantity_pos

theorem abs_sum_nonneg (l : List ℚ) : 0 ≤ (l.map abs).sum := List.sum_nonneg fun y hy => by
  obtain ⟨z, _, rfl⟩ := List.mem_map.1 hy
  exact abs_nonneg z

theorem abs_sum_le (l : List ℚ) : |l.sum| ≤ (l.map abs).sum := by
  induction l with
  | nil => exact abs_zero.le
  | cons y l ih =>
    rw [List.sum_cons, List.map_cons, List.sum_cons]
    exact (abs_add_le y l.sum).trans (by linarith)

theorem Held.part (h : Held k x fees) {a : ℚ}
    (ha : a ≤ x.bought + x.sold + x.spent + x.received + |x.fees.quantity| +
      (fees.map abs).sum) : a * 10 ^ k < 10 ^ 27 :=
  lt_of_le_of_lt (mul_le_mul_of_nonneg_right ha (by positivity)) h.small

theorem sums_nonneg (x : LotAccount) : 0 ≤ x.bought ∧ 0 ≤ x.sold ∧ 0 ≤ x.spent ∧ 0 ≤ x.received :=
  ⟨sum_nonneg_map fun f => f.quantity_pos, sum_nonneg_map fun f => f.quantity_pos,
    sum_nonneg_map value_pos, sum_nonneg_map value_pos⟩

theorem fills_sum (hpos : ∀ f, 0 < g f)
    (hgrid : ∀ f ∈ fills, OnGrid k (g f)) (hsmall : (fills.map g).sum * 10 ^ k < 10 ^ 27) :
    Arith.decimal.sum (fills.map g) = (fills.map g).sum := by
  have habs : ((fills.map g).map abs) = fills.map g := by
    rw [List.map_map]; exact List.map_congr_left fun f _ => abs_of_pos (hpos f)
  refine Decimal.sum_exact (fun y hy => ?_) (by rw [habs]; exact hsmall)
  obtain ⟨f, hf, rfl⟩ := List.mem_map.1 hy; exact hgrid f hf

theorem fills_values (hgrid : ∀ f ∈ fills, OnGrid k (f.price * f.quantity))
    (hsmall : (fills.map fun f => f.price * f.quantity).sum * 10 ^ k < 10 ^ 27) :
    ∀ f ∈ fills, Decimal.round (f.price * f.quantity) = f.price * f.quantity := by
  intro f hf; refine Decimal.round_fits ⟨hgrid f hf, ?_⟩
  rw [abs_of_pos (value_pos f)]
  refine lt_of_le_of_lt (mul_le_mul_of_nonneg_right ?_ (by positivity)) hsmall
  refine List.single_le_sum (fun y hy => ?_) _ (List.mem_map_of_mem hf)
  obtain ⟨g, _, rfl⟩ := List.mem_map.1 hy; exact (value_pos g).le

theorem fills_value (hgrid : ∀ f ∈ fills, OnGrid k (f.price * f.quantity))
    (hsmall : (fills.map fun f => f.price * f.quantity).sum * 10 ^ k < 10 ^ 27) :
    value .decimal fills = (fills.map fun f => f.price * f.quantity).sum := by
  have hmap : (fills.map fun f => Arith.decimal.mul f.price f.quantity) =
      fills.map fun f => f.price * f.quantity :=
    List.map_congr_left (fills_values hgrid hsmall)
  unfold value; rw [hmap]; exact fills_sum value_pos hgrid hsmall

variable (h : Held k x fees)

include h

theorem Held.bought : Arith.decimal.sum (x.trades.buys.map (·.quantity)) = x.bought := by
  obtain ⟨hb, hs, hp, hr⟩ := sums_nonneg x
  refine fills_sum (fun f => f.quantity_pos) (fun f hf => ?_) (h.part ?_)
  · exact h.quantities f (List.mem_append_left _ hf)
  · show x.bought ≤ _
    linarith [abs_nonneg x.fees.quantity, abs_sum_nonneg fees]

theorem Held.sold : Arith.decimal.sum (x.trades.sells.map (·.quantity)) = x.sold := by
  obtain ⟨hb, hs, hp, hr⟩ := sums_nonneg x
  refine fills_sum (fun f => f.quantity_pos) (fun f hf => ?_) (h.part ?_)
  · exact h.quantities f (List.mem_append_right _ hf)
  · show x.sold ≤ _; linarith [abs_nonneg x.fees.quantity, abs_sum_nonneg fees]

theorem Held.spent_small : x.spent * 10 ^ k < 10 ^ 27 := by
  obtain ⟨hb, hs, hp, hr⟩ := sums_nonneg x
  exact h.part (by linarith [abs_nonneg x.fees.quantity, abs_sum_nonneg fees])

theorem Held.spent : value .decimal x.trades.buys = x.spent :=
  fills_value (fun f hf => h.values f (List.mem_append_left _ hf)) h.spent_small

theorem Held.received : value .decimal x.trades.sells = x.received := by
  obtain ⟨hb, hs, hp, hr⟩ := sums_nonneg x
  refine fills_value (fun f hf => h.values f (List.mem_append_right _ hf)) (h.part ?_)
  show x.received ≤ _
  linarith [abs_nonneg x.fees.quantity, abs_sum_nonneg fees]

theorem Held.notional :
    Arith.decimal.sum (x.trades.buys.map fun f => Arith.decimal.mul f.quantity f.price) =
      x.spent := by
  have hmap : (x.trades.buys.map fun f => Arith.decimal.mul f.quantity f.price) =
      x.trades.buys.map fun f => Arith.decimal.mul f.price f.quantity :=
    List.map_congr_left fun f _ => congrArg Decimal.round (mul_comm f.quantity f.price)
  rw [hmap]; exact h.spent

theorem Held.fees_sum : Arith.decimal.sum fees = fees.sum := by
  obtain ⟨hb, hs, hp, hr⟩ := sums_nonneg x
  exact Decimal.sum_exact h.known (h.part (by linarith [abs_nonneg x.fees.quantity]))

theorem Held.grids : OnGrid k x.bought ∧ OnGrid k x.sold ∧ OnGrid k x.spent ∧
    OnGrid k x.received := by
  refine ⟨.sum fun y hy => ?_, .sum fun y hy => ?_, .sum fun y hy => ?_, .sum fun y hy => ?_⟩
  · obtain ⟨f, hf, rfl⟩ := List.mem_map.1 hy
    exact h.quantities f (List.mem_append_left _ hf)
  · obtain ⟨f, hf, rfl⟩ := List.mem_map.1 hy
    exact h.quantities f (List.mem_append_right _ hf)
  · obtain ⟨f, hf, rfl⟩ := List.mem_map.1 hy
    exact h.values f (List.mem_append_left _ hf)
  · obtain ⟨f, hf, rfl⟩ := List.mem_map.1 hy
    exact h.values f (List.mem_append_right _ hf)

theorem Held.cashflow : Decimal.round (x.received - x.spent) = x.received - x.spent := by
  obtain ⟨hb, hs, hp, hr⟩ := sums_nonneg x
  obtain ⟨_, _, hspent, hreceived⟩ := h.grids
  have habs : |x.received - x.spent| ≤ x.received + x.spent :=
    abs_le.2 ⟨by linarith, by linarith⟩
  refine Decimal.round_fits ⟨hreceived.sub hspent, h.part ?_⟩
  linarith [abs_nonneg x.fees.quantity, abs_sum_nonneg fees]

/-- **The open quantity is exact.** -/
theorem openQuantity_held : openQuantity .decimal x.trades x.fees =
    if isCrypto x.trades.buys then x.bought - x.sold - x.fees.quantity else x.bought - x.sold := by
  obtain ⟨hb, hs, hp, hr⟩ := sums_nonneg x
  obtain ⟨hbought, hsold, _, _⟩ := h.grids
  have habs : |x.bought - x.sold| ≤ x.bought + x.sold := abs_le.2 ⟨by linarith, by linarith⟩
  have hdiff : Decimal.sub x.bought x.sold = x.bought - x.sold := by
    refine Decimal.round_fits ⟨hbought.sub hsold, h.part ?_⟩
    linarith [abs_nonneg x.fees.quantity, abs_sum_nonneg fees]
  have hfee : Decimal.sub (x.bought - x.sold) x.fees.quantity =
      x.bought - x.sold - x.fees.quantity := by
    refine Decimal.round_fits ⟨(hbought.sub hsold).sub h.assetFee, h.part ?_⟩
    have htriangle : |x.bought - x.sold - x.fees.quantity| ≤
        |x.bought - x.sold| + |x.fees.quantity| := abs_sub _ _
    linarith [abs_sum_nonneg fees]
  unfold openQuantity; rw [h.bought, h.sold]
  show (if _ then Decimal.sub (Decimal.sub x.bought x.sold) x.fees.quantity else
    Decimal.sub x.bought x.sold) = _
  rw [hdiff, hfee]

end Sums

/-! ## Prefixes -/

section Prefixes

variable {x : LotAccount} {k : ℕ} {fees : List ℚ} {inventory : ℚ} {fills : List Fill}

theorem goesShort_grid (hinventory : OnGrid k inventory) (hgrid : ∀ f ∈ fills, OnGrid k f.quantity)
    (hsmall : (|inventory| + (fills.map (·.quantity)).sum) * 10 ^ k < 10 ^ 27) :
    goesShort .decimal inventory fills = L4.goesShort inventory fills := by
  induction fills generalizing inventory with
  | nil => rfl
  | cons f fs ih =>
    obtain ⟨hf, hfs⟩ := List.forall_mem_cons.1 hgrid
    rw [List.map_cons, List.sum_cons] at hsmall
    have hpow : (0 : ℚ) < 10 ^ k := by positivity
    have hrest : 0 ≤ (fs.map (·.quantity)).sum := sum_nonneg_map fun f => f.quantity_pos
    have hsize : |f.signedQuantity| = f.quantity := by
      unfold Fill.signedQuantity
      cases f.side with
      | buy => exact abs_of_pos f.quantity_pos
      | sell => exact (abs_neg f.quantity).trans (abs_of_pos f.quantity_pos)
    have hquantity : f.quantity * 10 ^ k < 10 ^ 27 :=
      lt_of_le_of_lt (mul_le_mul_of_nonneg_right (by linarith [abs_nonneg inventory]) hpow.le)
        hsmall
    have hsigned : signed .decimal f = f.signedQuantity ∧ OnGrid k f.signedQuantity := by
      unfold signed Fill.signedQuantity
      cases f.side with
      | buy => exact ⟨rfl, hf⟩
      | sell =>
        refine ⟨?_, hf.neg⟩; show Decimal.round (0 - f.quantity) = -f.quantity
        rw [zero_sub]
        exact Decimal.round_fits ⟨hf.neg, by rwa [abs_neg, abs_of_pos f.quantity_pos]⟩
    have htriangle : |inventory + f.signedQuantity| ≤ |inventory| + f.quantity := by
      have := abs_add_le inventory f.signedQuantity; rwa [hsize] at this
    have hnext : (|inventory + f.signedQuantity| + (fs.map (·.quantity)).sum) * 10 ^ k <
        10 ^ 27 :=
      lt_of_le_of_lt (mul_le_mul_of_nonneg_right (by linarith) hpow.le) hsmall
    have hgridNext := hinventory.add hsigned.2
    have hadd : Decimal.add inventory f.signedQuantity = inventory + f.signedQuantity := by
      refine Decimal.round_fits ⟨hgridNext, lt_of_le_of_lt ?_ hnext⟩
      exact mul_le_mul_of_nonneg_right (by linarith) hpow.le
    unfold goesShort L4.goesShort; rw [hsigned.1]
    show (decide (Decimal.add inventory f.signedQuantity < 0) ||
      goesShort .decimal (Decimal.add inventory f.signedQuantity) fs) = _
    rw [hadd, ih hgridNext hfs hnext]

theorem chronological_perm (fills : List Fill) : (chronological fills).Perm fills :=
  List.perm_insertionSort _ _

/-- **The inventory of a lot is exact.** -/
theorem goesShort_held (h : Held k x fees) : goesShort .decimal 0 (chronological x.fills) =
    L4.goesShort 0 (chronological x.fills) := by
  obtain ⟨hb, hs, hp, hr⟩ := sums_nonneg x
  have hperm := chronological_perm x.fills
  refine goesShort_grid (.zero k) (fun f hf => h.quantities f (hperm.mem_iff.1 hf)) (h.part ?_)
  have hsum : ((chronological x.fills).map (·.quantity)).sum = x.bought + x.sold := by
    rw [(hperm.map _).sum_eq, LotAccount.fills, List.map_append, List.sum_append]
    rfl
  rw [hsum, abs_zero]
  linarith [abs_nonneg x.fees.quantity, abs_sum_nonneg fees]

theorem goesShort_false (h : L4.goesShort inventory fills = false) (h0 : 0 ≤ inventory) :
    ∀ p, p <+: fills → 0 ≤ inventory + (p.map (·.signedQuantity)).sum := by
  induction fills generalizing inventory with
  | nil =>
    intro p hp; rw [List.prefix_nil.1 hp]; exact (add_zero inventory).symm ▸ h0
  | cons f fs ih =>
    unfold L4.goesShort at h
    rw [Bool.or_eq_false_iff, decide_eq_false_iff_not, not_lt] at h; intro p hp
    cases p with
    | nil => exact (add_zero inventory).symm ▸ h0
    | cons g p =>
      obtain ⟨rfl, hrest⟩ := List.cons_prefix_cons.1 hp
      rw [List.map_cons, List.sum_cons, ← add_assoc]; exact ih h.2 h.1 p hrest

theorem sum_signed (fills : List Fill) :
    (fills.map (·.signedQuantity)).sum = unitsOf .buy fills - unitsOf .sell fills := by
  unfold unitsOf
  induction fills with
  | nil => exact (sub_self 0).symm
  | cons f fs ih =>
    rw [List.map_cons, List.sum_cons, ih]; unfold Fill.signedQuantity
    cases hside : f.side with
    | buy =>
      rw [List.filter_cons_of_pos (by simp [hside]), List.filter_cons_of_neg (by simp [hside]),
        List.map_cons, List.sum_cons]
      ring
    | sell =>
      rw [List.filter_cons_of_neg (by simp [hside]), List.filter_cons_of_pos (by simp [hside]),
        List.map_cons, List.sum_cons]
      ring

end Prefixes

/-! ## What is accounted for -/

/-- What an account that was not refused has passed. -/
structure Passed (A : Arith) (v : OutcomeViews) (s : CoreStore) (lot : String) (asOf : Int)
    (x : LotAccount) : Prop where
  flat : openQuantity A x.trades x.fees = 0
  covered : goesShort A 0 (chronological x.fills) = false
  fees : lotFees v s lot asOf x.trades = .ok x.fees
  bought : x.trades.buys ≠ []

theorem lotAccount_passed {A : Arith} {v : OutcomeViews} {s : CoreStore} {lot : String}
    {asOf : Int} {preferred : Option String} {x : LotAccount}
    (h : lotAccount A v s lot asOf preferred = .ok x) : Passed A v s lot asOf x := by
  unfold lotAccount at h; split at h
  · cases h
  dsimp only at h; split at h
  · obtain ⟨trades, _, h⟩ := Txn.except_bind_ok.1 h
    obtain ⟨fees, hfees, h⟩ := Txn.except_bind_ok.1 h; split at h
    · rename_i buy buys sell sells hbuys hsells; split at h
      · cases h
      rename_i hflat; split at h
      · cases h
      rename_i hcovered; obtain ⟨evidence, _, h⟩ := Txn.except_bind_ok.1 h
      cases h; refine ⟨not_not.1 hflat, Bool.eq_false_iff.2 hcovered, hfees, ?_⟩
      rw [hbuys]; exact List.cons_ne_nil _ _
    · cases h
  · cases h

/-- What the figures of a lot come to in exact numbers. `fees` are the actual fees of its fills,
where every one is known; `operational` says that it is a crypto lot on the broker's paper. -/
structure Accounts (x : LotAccount) (operational : Bool) (fees : Option (List ℚ)) (g : Figures) :
    Prop where
  conserved : x.bought = x.sold + x.fees.quantity
  chronological : ∀ p, p <+: chronological x.fills → unitsOf .sell p ≤ unitsOf .buy p
  notional : g.entryNotional = x.spent
  stock : isCrypto x.trades.buys = false →
    g.crypto = none ∧ g.grossPnl = x.gross ∧ x.gross = x.received - x.spent
  crypto : isCrypto x.trades.buys = true → ∃ e, g.crypto = some e ∧
    e.assetFeeQuantity = x.fees.quantity ∧ e.cashflowPnl = x.received - x.spent ∧
    |e.assetFeeCostBasis - x.fees.quantity * x.basis| ≤
      3 * |x.fees.quantity * x.basis| / 10 ^ 27 ∧
    g.grossPnl = Decimal.round (e.cashflowPnl + e.assetFeeCostBasis) ∧
    |g.grossPnl - x.gross| ≤ (4 * |x.fees.quantity * x.basis| + |x.gross|) / 10 ^ 27 ∧
    (Decimal.round x.basis = x.basis →
      Decimal.round (x.fees.quantity * x.basis) = x.fees.quantity * x.basis →
      e.assetFeeCostBasis = x.fees.quantity * x.basis ∧ g.grossPnl = Decimal.round x.gross)
  actual : g.actualFees = if operational then none else fees.map List.sum
  net : g.netPnl = g.actualFees.map fun total => Decimal.round (g.grossPnl - total)
  stockNet : isCrypto x.trades.buys = false →
    g.netPnl = g.actualFees.map fun total => x.gross - total

section Figures

variable {v : OutcomeViews} {s : CoreStore} {lot : String} {asOf : Int} {x : LotAccount} {k : ℕ}
  {fees : List ℚ}

/-- **Units are conserved**: those bought are sold or paid as fees. -/
theorem Passed.conserved (h : Passed .decimal v s lot asOf x) (hheld : Held k x fees) :
    x.bought = x.sold + x.fees.quantity := by
  have hflat := h.flat; rw [openQuantity_held hheld] at hflat; split at hflat
  · linarith
  rename_i hcrypto
  have hnone : x.fees.quantity = 0 := by
    rw [lotFees_stock v s h.fees (Bool.eq_false_iff.2 hcrypto)]
  linarith

theorem Passed.bought_pos {A : Arith} (h : Passed A v s lot asOf x) : 0 < x.bought := by
  have hne := h.bought; unfold LotAccount.bought
  cases hbuys : x.trades.buys with
  | nil => exact absurd hbuys hne
  | cons f fs =>
    exact add_pos_of_pos_of_nonneg f.quantity_pos (sum_nonneg_map fun f => f.quantity_pos)

theorem Passed.gross (h : Passed .decimal v s lot asOf x) (hheld : Held k x fees) :
    x.received - x.spent + x.fees.quantity * x.basis = x.gross := by
  have hspent : x.basis * x.bought = x.spent := div_mul_cancel₀ _ h.bought_pos.ne'
  have hconserved := h.conserved hheld; unfold LotAccount.gross
  rw [← hspent, hconserved]; ring

theorem Passed.chronological (h : Passed .decimal v s lot asOf x) (hheld : Held k x fees) :
    ∀ p, p <+: chronological x.fills → unitsOf .sell p ≤ unitsOf .buy p := by
  have hcovered := h.covered; rw [goesShort_held hheld] at hcovered; intro p hp
  have hsum := goesShort_false hcovered (le_refl 0) p hp
  rw [zero_add, sum_signed] at hsum; exact sub_nonneg.1 hsum

variable (s asOf x)

theorem figures_economics (A : Arith) : (figures A s asOf x).crypto =
    if isCrypto x.trades.buys then some (cryptoEconomics A x.trades x.fees) else none := rfl

theorem figures_gross (A : Arith) : (figures A s asOf x).grossPnl =
    match (figures A s asOf x).crypto with
    | some e => A.add (A.sub (value A x.trades.sells) (value A x.trades.buys)) e.assetFeeCostBasis
    | none => A.sub (value A x.trades.sells) (value A x.trades.buys) := rfl

theorem figures_cashflow (hheld : Held k x fees) :
    Arith.decimal.sub (value .decimal x.trades.sells) (value .decimal x.trades.buys) =
      x.received - x.spent := by
  rw [hheld.received, hheld.spent]; exact hheld.cashflow

variable {s asOf x}

theorem figures_stock (h : Passed .decimal v s lot asOf x) (hheld : Held k x fees)
    (hcrypto : isCrypto x.trades.buys = false) : (figures .decimal s asOf x).crypto = none ∧
      (figures .decimal s asOf x).grossPnl = x.gross ∧ x.gross = x.received - x.spent := by
  have hgross : x.gross = x.received - x.spent := by
    rw [← h.gross hheld, lotFees_stock v s h.fees hcrypto]; ring
  have hnone : (figures .decimal s asOf x).crypto = none := by
    rw [figures_economics, hcrypto]; rfl
  refine ⟨hnone, ?_, hgross⟩; rw [figures_gross, hnone, hgross]
  exact figures_cashflow x hheld

theorem figures_crypto (h : Passed .decimal v s lot asOf x) (hheld : Held k x fees)
    (hcrypto : isCrypto x.trades.buys = true) : ∃ e, (figures .decimal s asOf x).crypto = some e ∧
      e.assetFeeQuantity = x.fees.quantity ∧ e.cashflowPnl = x.received - x.spent ∧
      |e.assetFeeCostBasis - x.fees.quantity * x.basis| ≤
        3 * |x.fees.quantity * x.basis| / 10 ^ 27 ∧
      (figures .decimal s asOf x).grossPnl =
        Decimal.round (e.cashflowPnl + e.assetFeeCostBasis) ∧
      |(figures .decimal s asOf x).grossPnl - x.gross| ≤
        (4 * |x.fees.quantity * x.basis| + |x.gross|) / 10 ^ 27 ∧
      (Decimal.round x.basis = x.basis →
        Decimal.round (x.fees.quantity * x.basis) = x.fees.quantity * x.basis →
        e.assetFeeCostBasis = x.fees.quantity * x.basis ∧
          (figures .decimal s asOf x).grossPnl = Decimal.round x.gross) := by
  have hcashflow := figures_cashflow x hheld
  have hshare : (cryptoEconomics .decimal x.trades x.fees).assetFeeCostBasis =
      Decimal.mul x.fees.quantity (Decimal.div x.spent x.bought) := by
    unfold cryptoEconomics; rw [hheld.spent, hheld.bought]; rfl
  have hflow : (cryptoEconomics .decimal x.trades x.fees).cashflowPnl = x.received - x.spent :=
    hcashflow
  have hsome : (figures .decimal s asOf x).crypto =
      some (cryptoEconomics .decimal x.trades x.fees) := by
    rw [figures_economics, hcrypto]; rfl
  have hgross : (figures .decimal s asOf x).grossPnl = Decimal.add (x.received - x.spent)
      (Decimal.mul x.fees.quantity (Decimal.div x.spent x.bought)) := by
    rw [figures_gross, hsome, ← hshare, ← hcashflow]; rfl
  refine ⟨cryptoEconomics .decimal x.trades x.fees, hsome, rfl, hflow, ?_, ?_, ?_, ?_⟩
  · rw [hshare]; exact Decimal.abs_share_sub_le _ _ _
  · rw [hgross, hflow, hshare]; rfl
  · rw [hgross, ← h.gross hheld]; exact Decimal.abs_add_share_sub_le _ _ _ _
  · intro hbasis hcost
    have hexact : Decimal.mul x.fees.quantity (Decimal.div x.spent x.bought) =
        x.fees.quantity * x.basis := by
      show Decimal.round (x.fees.quantity * Decimal.round x.basis) = _
      rw [hbasis, hcost]
    refine ⟨hshare.trans hexact, ?_⟩; rw [hgross, hexact, ← h.gross hheld]; rfl

theorem figures_net (hheld : Held k x ((actualFees s asOf x.fills).getD [])) :
    (figures .decimal s asOf x).actualFees =
        (if isCrypto x.trades.buys && decide (s.config.evidenceLane = .brokerPaper) then none
        else (actualFees s asOf x.fills).map List.sum) ∧
      (figures .decimal s asOf x).netPnl = (figures .decimal s asOf x).actualFees.map
        fun total => Decimal.round ((figures .decimal s asOf x).grossPnl - total) := by
  have hactual : (actualFees s asOf x.fills).map Arith.decimal.sum =
      (actualFees s asOf x.fills).map List.sum := by
    cases hknown : actualFees s asOf x.fills with
    | none => rfl
    | some l =>
      rw [hknown] at hheld; exact congrArg some hheld.fees_sum
  refine ⟨?_, rfl⟩; rw [← hactual]; rfl

theorem figures_stock_net (h : Passed .decimal v s lot asOf x)
    (hheld : Held k x ((actualFees s asOf x.fills).getD []))
    (hcrypto : isCrypto x.trades.buys = false) : (figures .decimal s asOf x).netPnl =
      (figures .decimal s asOf x).actualFees.map fun total => x.gross - total := by
  obtain ⟨_, hgross, hflow⟩ := figures_stock h hheld hcrypto
  obtain ⟨hactual, hnet⟩ := figures_net hheld
  rw [hnet, hactual, hcrypto, hgross]
  cases hknown : actualFees s asOf x.fills with
  | none => rfl
  | some l =>
    rw [hknown] at hheld; obtain ⟨hb, hs, hp, hr⟩ := sums_nonneg x
    obtain ⟨_, _, hspent, hreceived⟩ := hheld.grids; refine congrArg some ?_
    rw [hflow]
    refine Decimal.round_fits ⟨(hreceived.sub hspent).sub (.sum hheld.known), hheld.part ?_⟩
    have hsum := abs_sum_le l
    have htriangle : |x.received - x.spent - l.sum| ≤ |x.received - x.spent| + |l.sum| := abs_sub _ _
    have hdiff : |x.received - x.spent| ≤ x.received + x.spent :=
      abs_le.2 ⟨by linarith, by linarith⟩
    show |x.received - x.spent - l.sum| ≤ _ + (l.map abs).sum
    linarith [abs_nonneg x.fees.quantity]

/-- **The figures of an account that passed.** -/
theorem figures_accounts (h : Passed .decimal v s lot asOf x)
    (hheld : Held k x ((actualFees s asOf x.fills).getD [])) :
    Accounts x (isCrypto x.trades.buys && decide (s.config.evidenceLane = .brokerPaper))
      (actualFees s asOf x.fills) (figures .decimal s asOf x) where
  conserved := h.conserved hheld
  chronological := h.chronological hheld
  notional := hheld.notional
  stock := figures_stock h hheld
  crypto := figures_crypto h hheld
  actual := (figures_net hheld).1
  net := (figures_net hheld).2
  stockNet := figures_stock_net h hheld

end Figures

end Quantbot.L4.Economics
