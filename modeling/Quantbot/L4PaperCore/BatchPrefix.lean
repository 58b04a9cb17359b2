import Quantbot.L4PaperCore.Batch
import Quantbot.L4PaperCore.EntrySizing

/-!
# The batch prefix never overspends

`Allocated` is what a prefix is: each decision is the round's own, for the amounts the
decisions before it left, until a round buys nothing or the rounds are over.

Results:
* `evaluate_buy`: what a round's BUY rests on.
* `Spent.spend`: one amount, one cost: what is left is exactly what was there less the costs,
  which are within it.
* `batch_prefix`: the symbols bought are distinct, free and without objection, their cost and
  stop risk are within the three amounts, they fit the free slots, each quantity is the entry
  quantity for the money left, and the prefix is the only allocation of its inputs.

The amounts hold 28 digits as decimals do (`Held`). The costs are within an amount up to
three parts in `10²⁷` of it, and within it where the amount has at most 26 digits.
-/
namespace Quantbot.L4.Entry

open Core L1
open Core.Decimal

/-! ## One round -/

theorem eraseDups_eq_nil {l : List String} : l.eraseDups = [] ↔ l = [] := by
  cases l with
  | nil => simp
  | cons a l => simp [List.eraseDups_cons]

theorem distinct_eq_nil {l : List String} : distinct l = [] ↔ l = [] := eraseDups_eq_nil

namespace BatchInputs

variable {b : BatchInputs} {health : String → List String} {available : ℚ} {m : Member}
  {d : EntryDecision} {decisions : List EntryDecision}

/-- A decision of `evaluate_entry` is the member's, at the entry quantity. -/
theorem evaluateEntry_ok (h : b.evaluateEntry available m = .ok d) :
    (b.terms m available).entryQuantity b.easternHour = .ok d.quantity ∧
      d.symbol = m.symbol ∧ d.price = m.price ∧
      (d.gates = [] → 0 < d.quantity ∧ m.gatesBefore = [] ∧ m.gatesAfter = []) := by
  obtain ⟨quantity, hquantity, h⟩ := Txn.except_bind_ok.1 h
  obtain ⟨crypto, _, h⟩ := Txn.except_bind_ok.1 h; cases h
  refine ⟨hquantity, rfl, rfl, fun hgates => ?_⟩
  simp only [List.append_eq_nil_iff, moneyGates] at hgates
  obtain ⟨⟨⟨⟨hbefore, _⟩, _⟩, hrisk, _⟩, hafter⟩ := hgates
  refine ⟨?_, hbefore, hafter⟩; by_contra hneg
  rw [if_pos (.inl (not_lt.1 hneg))] at hrisk; cases hrisk

theorem minBy_mem {key : EntryDecision → ℕ × ℚ × ℕ × ℕ} {l : List EntryDecision}
    (h : minBy key l = some d) : d ∈ l := by
  cases l with
  | nil => cases h
  | cons x rest =>
    cases h
    have hfold : ∀ (l : List EntryDecision) (best : EntryDecision),
        l.foldl (fun best d => if minBy.Earlier (key d) (key best) then d else best) best ∈
          best :: l := by
      intro l
      induction l with
      | nil => exact fun best => List.mem_cons_self
      | cons y l ih =>
        intro best; rw [List.foldl_cons]; split
        · exact List.mem_cons_of_mem _ (ih y)
        rcases List.mem_cons.1 (ih best) with hb | hl
        · rw [hb]; exact List.mem_cons_self
        · exact List.mem_cons_of_mem _ (List.mem_cons_of_mem _ hl)
    exact hfold rest x

theorem choose_some (h : b.choose health decisions = some d) :
    d.symbol ∈ b.symbols ∧ decisionFor decisions d.symbol = some d := by
  have hlooked : ∀ s, decisionFor decisions s = some d → s ∈ b.symbols →
      d.symbol ∈ b.symbols ∧ decisionFor decisions d.symbol = some d := by
    intro s hs hmem
    have hsymbol : d.symbol = s := by simpa using List.find?_some hs
    rw [hsymbol]; exact ⟨hmem, hs⟩
  have heligible : d ∈ b.eligible health decisions →
      d.symbol ∈ b.symbols ∧ decisionFor decisions d.symbol = some d := by
    intro hmem; obtain ⟨s, hs, hd⟩ := List.mem_filterMap.1 hmem
    exact hlooked s (Option.filter_eq_some_iff.1 hd).1 hs
  unfold choose at h; simp only at h; split at h
  · exact heligible (List.mem_filter.1 (minBy_mem h)).1
  split at h
  · exact heligible (minBy_mem h)
  · obtain ⟨s, hs, hd⟩ := List.mem_filterMap.1 (List.mem_of_head? h)
    exact hlooked s hd hs

/-- A BUY is a member's own decision without any gate, and without an exclusion. -/
theorem evaluateCohort_buy (h : b.evaluateCohort health available = .ok d) (hbuy : d.action = .buy) :
    d.gates = [] ∧ d.symbol ∈ b.symbols ∧ d.symbol ∉ b.unavailable.map (·.1) ∧
      health d.symbol = [] ∧
      ∃ m ∈ b.members, m.symbol = d.symbol ∧ m.price = d.price ∧ 0 < d.quantity ∧
        m.gatesBefore = [] ∧ m.gatesAfter = [] ∧
        (b.terms m available).entryQuantity b.easternHour = .ok d.quantity := by
  unfold evaluateCohort at h; split at h
  · cases h
  obtain ⟨decisions, hdecisions, h⟩ := Txn.except_bind_ok.1 h; split at h
  · cases h
  rename_i own hchoose; obtain ⟨bound, _, h⟩ := Txn.except_bind_ok.1 h; cases h
  obtain ⟨hsymbol, hown⟩ := choose_some hchoose
  have hgates : b.exclusion health decisions own.symbol ++
      (if bound.dailyEntryLimit.any (· ≤ b.sessionTotal) then
        ["SESSION_RESERVATION_LIMIT"] else []) = [] := by
    by_contra hne; simp only [if_neg hne] at hbuy; cases hbuy
  have hexclusion := (List.append_eq_nil_iff.1 hgates).1
  unfold exclusion at hexclusion; rw [hown] at hexclusion
  have hreasons := (List.append_eq_nil_iff.1 hexclusion).1
  obtain ⟨hnone, hhealth⟩ := List.append_eq_nil_iff.1 (distinct_eq_nil.1 hreasons)
  obtain ⟨m, hm, heval⟩ := Txn.mapM_ok_mem hdecisions own (List.mem_of_find?_eq_some hown)
  obtain ⟨hquantity, hsym, hprice, hclear⟩ := evaluateEntry_ok heval
  obtain ⟨hpos, hbefore, hafter⟩ := hclear hnone
  refine ⟨hgates, hsymbol, ?_, hhealth, m, hm, hsym.symm, hprice.symm, hpos, hbefore, hafter,
    hquantity⟩
  intro hout; have hdisjoint := (List.nodup_append.1 b.members_nodup).2.2
  exact hdisjoint m.symbol (List.mem_map_of_mem hm) own.symbol hout hsym.symm

end BatchInputs

/-! ## Amounts that are spent -/

/-- A number the decimal context holds, on a grid: at most 28 digits. -/
def Held (g : ℕ) (x : ℚ) : Prop := OnGrid g x ∧ |x| * 10 ^ g < 10 ^ 28

/-- `left` is what the costs `spent` leave of `x`, and they are within it. -/
structure Spent (g : ℕ) (x spent left : ℚ) : Prop where
  left_eq : left = x - spent
  grid : OnGrid g spent
  nonneg : 0 ≤ spent
  near : Near spent x
  le : Roomy g x → spent ≤ x

variable {g k : ℕ} {x spent left a cost : ℚ}

theorem Spent.start (hx : 0 ≤ x) : Spent g x 0 x := by
  refine ⟨(sub_zero x).symm, .zero g, le_refl 0, ?_, fun _ => hx⟩
  show 0 ≤ x + 3 * x / 10 ^ 27; positivity

theorem Spent.spend (h : Spent g x spent left) (hx : Held g x) (hcost : 0 ≤ cost)
    (hgrid : OnGrid g cost) (hnear : Near cost a) (ha : 0 ≤ a) (hle : a ≤ left) :
    Spent g x (spent + cost) (Decimal.sub left cost) := by
  have hx0 : 0 ≤ x := by
    have := h.nonneg; have := h.left_eq; linarith
  have hnearLeft : cost ≤ left + 3 * left / 10 ^ 27 := by
    have hstep : a + 3 * a / 10 ^ 27 ≤ left + 3 * left / 10 ^ 27 := by gcongr
    exact le_trans hnear hstep
  have hleft : left ≤ x := by
    rw [h.left_eq]; exact sub_le_self x h.nonneg
  have htotal : spent + cost ≤ x + 3 * x / 10 ^ 27 := by
    have hsum : spent + left = x := by rw [h.left_eq]; ring
    linarith
  have hgridLeft : OnGrid g left := by
    rw [h.left_eq]; exact hx.1.sub h.grid
  have hexact : Decimal.sub left cost = left - cost := by
    refine round_grid (hgridLeft.sub hgrid) ?_
    have hpow : (0 : ℚ) < 10 ^ g := by positivity
    have hxlt : x * 10 ^ g < 10 ^ 28 := by
      have := hx.2; rwa [abs_of_nonneg hx0] at this
    have habs : |left - cost| ≤ x := by
      rw [abs_le]; constructor <;> linarith
    exact lt_of_le_of_lt (mul_le_mul_of_nonneg_right habs hpow.le) hxlt
  refine ⟨?_, h.grid.add hgrid, add_nonneg h.nonneg hcost, htotal, fun hroomy => ?_⟩
  · rw [hexact, h.left_eq]; ring
  · have hroomyLeft : Roomy g left := Roomy.of_le hgridLeft hroomy (ha.trans hle) hleft
    have hwithin : cost ≤ left := hnear.le hle (ha.trans hle) hgrid hroomyLeft
    rw [h.left_eq] at hwithin; linarith

theorem mul_hundredth (hgrid : OnGrid k x) (hx : |x| * 10 ^ k < 10 ^ 28) :
    mul x (1 / 100) = x / 100 ∧ OnGrid (k + 2) (x / 100) := by
  have hquot : OnGrid (k + 2) (x / 100) := by
    have hdiv := hgrid.divPow 2; exact hdiv
  have heq : x * (1 / 100) = x / 100 := by ring
  refine ⟨?_, hquot⟩; rw [← heq] at hquot ⊢; refine mul_exact hquot ?_
  rw [heq, abs_div, pow_add]
  calc |x| / |(100 : ℚ)| * (10 ^ k * 10 ^ 2) = |x| * 10 ^ k := by norm_num; ring
    _ < 10 ^ 28 := hx

theorem mul_hundred (hg : 2 ≤ g) (hx : Held g x) : mul x 100 = x * 100 := by
  obtain ⟨n, hn⟩ := hx.1
  have hsplit : (10 : ℚ) ^ g = 10 ^ (g - 2) * 10 ^ 2 := by
    rw [← pow_add, Nat.sub_add_cancel hg]
  have hgrid : OnGrid (g - 2) (x * 100) := by
    refine ⟨n, ?_⟩; rw [hn, hsplit]; field_simp; norm_num
  refine mul_exact hgrid ?_; rw [abs_mul]
  calc |x| * |(100 : ℚ)| * 10 ^ (g - 2) = |x| * 10 ^ g := by rw [hsplit]; norm_num; ring
    _ < 10 ^ 28 := hx.2

/-! ## One purchase -/

/-- The grids of the budget's three amounts. -/
structure Grids where
  cash : ℕ
  gross : ℕ
  risk : ℕ

/-- Prices, steps and the equity are multiples of `10⁻ᵏ` and the account's amounts have at most
26 digits; the budget's amounts are decimals of at most 28. -/
structure Batch.Representable (b : Batch) (k : ℕ) (g : Grids) : Prop where
  tick : 6 ≤ k
  equity : OnGrid k b.account.equity
  equity_lt : Roomy (k + k) b.account.equity
  cash : Roomy (k + k) b.account.cash
  power : ∀ amount ∈ b.account.nonMarginableBuyingPower, Roomy (k + k) amount
  price : ∀ m ∈ b.members, OnGrid k m.price
  step : ∀ m ∈ b.members, ∀ e ∈ m.eligibility, ∀ s ∈ e.quantityStep, OnGrid k s
  capabilityStep : ∀ c ∈ b.config.assetCapabilities, OnGrid k c.quantityStep
  cash_tick : k + k ≤ g.cash
  gross_tick : k + k ≤ g.gross
  risk_tick : k + k + 2 ≤ g.risk
  spendable : Held g.cash b.budget.spendableCash
  gross : Held g.gross b.budget.grossHeadroom
  risk : Held g.risk b.budget.riskHeadroom

variable {b : Batch} {grids : Grids} {health : String → List String} {left : Headroom}
  {d : EntryDecision} {n : ℕ} {picks : List EntryDecision} {spent : ℚ}

theorem terms_onTick (hb : b.Representable k grids) {m : Member} (hm : m ∈ b.members) (a : ℚ) :
    (b.terms m a).OnTick k where
  tick := hb.tick
  price := hb.price m hm
  equity := hb.equity
  equity_lt := hb.equity_lt
  cash := hb.cash
  power := hb.power
  step := hb.step m hm
  capabilityStep := fun c hc => hb.capabilityStep c (List.mem_of_find?_eq_some hc)

/-- What one decision of the prefix costs. -/
structure Purchase (k : ℕ) (left : Headroom) (d : EntryDecision) : Prop where
  quantity_pos : 0 < d.quantity
  price_pos : 0 < d.price
  quantity_grid : OnGrid k d.quantity
  price_grid : OnGrid k d.price
  notional_eq : d.notional = d.quantity * d.price
  covered : ∃ a, 0 < a ∧ a ≤ left.available ∧ a * 10 ^ (k + k) < 10 ^ 26 ∧
    Near (d.quantity * d.price) a

theorem evaluate_purchase (hb : b.Representable k grids)
    (hparallel : parallelPolicy b.config b.policy = true) (h : b.evaluate health left = .ok d)
    (hbuy : d.action = .buy) : Purchase k left d := by
  obtain ⟨_, _, _, _, m, hm, _, hprice, hpos, _, _, hquantity⟩ :=
    BatchInputs.evaluateCohort_buy h hbuy
  have hi := terms_onTick hb hm left.available
  obtain ⟨_, ⟨config, hconfig, _, hentry⟩ | ⟨hnot, _⟩⟩ := entryQuantity_cases hquantity hpos
  · obtain ⟨bound, _, hn, havailable, hsize, hnear, hexact⟩ := boundedEntry_ok hi hentry hpos
    obtain ⟨_, hle, _⟩ := available_le havailable
    have hm_price : m.price = d.price := hprice
    refine ⟨hpos, hm_price ▸ m.price_pos, hn.grid, hm_price ▸ hb.price m hm, ?_, _, havailable,
      hle, hsize, ?_⟩
    · unfold EntryDecision.notional; rw [← hm_price]; exact hexact
    · rw [← hm_price]; exact hnear
  · rw [parallel_some (show (b.terms m left.available).config = some b.config from rfl)] at hnot
    rw [show (b.terms m left.available).policy = b.policy from rfl, hparallel] at hnot
    cases hnot

theorem Purchase.small (h : Purchase k left d) :
    OnGrid (k + k) (d.quantity * d.price) ∧ 0 < d.quantity * d.price ∧
      d.quantity * d.price * 10 ^ (k + k) < 10 ^ 26 + 1 := by
  obtain ⟨a, _, _, hsize, hnear⟩ := h.covered
  have hpow : (0 : ℚ) < 10 ^ (k + k) := by positivity
  refine ⟨h.quantity_grid.mul h.price_grid, mul_pos h.quantity_pos h.price_pos, ?_⟩
  calc d.quantity * d.price * 10 ^ (k + k)
      ≤ (a + 3 * a / 10 ^ 27) * 10 ^ (k + k) := mul_le_mul_of_nonneg_right hnear hpow.le
    _ = a * 10 ^ (k + k) + 3 * (a * 10 ^ (k + k)) / 10 ^ 27 := by ring
    _ < 10 ^ 26 + 1 := by linarith

theorem Purchase.stopRisk_eq (h : Purchase k left d) : d.stopRisk = d.quantity * d.price / 100 := by
  obtain ⟨hgrid, hpos, hsmall⟩ := h.small
  have hpow : (0 : ℚ) < 10 ^ k := by positivity
  have hprice : d.price * 10 ^ k < 10 ^ 26 + 1 := by
    have hone := h.quantity_grid.one_le h.quantity_pos
    calc d.price * 10 ^ k = 1 * (d.price * 10 ^ k) := (one_mul _).symm
      _ ≤ d.quantity * 10 ^ k * (d.price * 10 ^ k) :=
        mul_le_mul_of_nonneg_right hone (mul_pos h.price_pos hpow).le
      _ = d.quantity * d.price * 10 ^ (k + k) := by rw [pow_add]; ring
      _ < 10 ^ 26 + 1 := hsmall
  have hstop : mul d.price (99 / 100) = d.price * (99 / 100) := by
    refine mul_exact (h.price_grid.mul (⟨99, by norm_num⟩ : OnGrid 2 (99 / 100))) ?_
    rw [abs_of_pos (mul_pos h.price_pos (by norm_num)), pow_add]
    calc d.price * (99 / 100) * (10 ^ k * 10 ^ 2) = d.price * 10 ^ k * 99 := by ring
      _ < 10 ^ 28 := by linarith
  have hquot : OnGrid (k + 2) (d.price / 100) := by
    have hdiv := h.price_grid.divPow 2; exact hdiv
  have hloss : Decimal.sub d.price (d.price * (99 / 100)) = d.price / 100 := by
    have heq : d.price - d.price * (99 / 100) = d.price / 100 := by ring
    rw [← heq]; refine round_grid (heq ▸ hquot) ?_
    rw [heq, abs_of_pos (div_pos h.price_pos (by norm_num)), pow_add]
    calc d.price / 100 * (10 ^ k * 10 ^ 2) = d.price * 10 ^ k := by ring
      _ < 10 ^ 28 := by linarith
  unfold EntryDecision.stopRisk
  have heq : d.quantity * (d.price / 100) = d.quantity * d.price / 100 := by ring
  rw [hstop, hloss, ← heq]; refine mul_exact (h.quantity_grid.mul hquot) ?_
  rw [heq, abs_of_pos (div_pos hpos (by norm_num))]
  calc d.quantity * d.price / 100 * 10 ^ (k + (k + 2))
      = d.quantity * d.price * 10 ^ (k + k) := by rw [← add_assoc, pow_add _ (k + k)]; ring
    _ < 10 ^ 28 := by linarith

/-- What the three amounts have left after costs of `spent`. -/
structure Left (b : Batch) (grids : Grids) (spent : ℚ) (left : Headroom) : Prop where
  cash : Spent grids.cash b.budget.spendableCash spent left.cash
  gross : Spent grids.gross b.budget.grossHeadroom spent left.gross
  risk : Spent grids.risk b.budget.riskHeadroom (spent / 100) left.risk

theorem Left.start : Left b grids 0 b.budget.headroom where
  cash := .start b.budget.cash_nonneg
  gross := .start b.budget.gross_nonneg
  risk := by
    rw [zero_div]
    exact .start b.budget.risk_nonneg

theorem Left.spend (hb : b.Representable k grids) (h : Left b grids spent left)
    (hd : Purchase k left d) : Left b grids (spent + d.quantity * d.price) (left.spend d) := by
  obtain ⟨hgrid, hpos, hsmall⟩ := hd.small
  obtain ⟨a, ha, hle, _, hnear⟩ := hd.covered
  obtain ⟨hboth, hrisk⟩ := le_min_iff.1 hle
  obtain ⟨hcash, hgross⟩ := le_min_iff.1 hboth
  have hleft : Held grids.risk left.risk := by
    have hspent := h.risk; refine ⟨?_, ?_⟩
    · rw [hspent.left_eq]; exact hb.risk.1.sub hspent.grid
    · have hx := hb.risk.2; have hx0 := b.budget.risk_nonneg
      have hspentNear : spent / 100 ≤ b.budget.riskHeadroom + 3 * b.budget.riskHeadroom / 10 ^ 27 :=
        hspent.near
      have habs : |left.risk| ≤ |b.budget.riskHeadroom| := by
        rw [hspent.left_eq, abs_of_nonneg hx0, abs_le]; have := hspent.nonneg
        constructor <;> linarith
      exact lt_of_le_of_lt (mul_le_mul_of_nonneg_right habs (by positivity)) hx
  rw [mul_hundred (by have := hb.risk_tick; omega) hleft] at hrisk
  obtain ⟨hhundredth, hgrid'⟩ := mul_hundredth hgrid
    (show |d.quantity * d.price| * 10 ^ (k + k) < 10 ^ 28 by rw [abs_of_pos hpos]; linarith)
  have hcost : Near (d.quantity * d.price / 100) (a / 100) := by
    have := hnear; unfold Near at this ⊢
    have heq : a / 100 + 3 * (a / 100) / 10 ^ 27 = (a + 3 * a / 10 ^ 27) / 100 := by ring
    rw [heq]; exact div_le_div_of_nonneg_right this (by norm_num)
  constructor
  · rw [Headroom.spend, hd.notional_eq]
    exact h.cash.spend hb.spendable hpos.le (hgrid.mono hb.cash_tick) hnear ha.le hcash
  · rw [Headroom.spend, hd.notional_eq]
    exact h.gross.spend hb.gross hpos.le (hgrid.mono hb.gross_tick) hnear ha.le hgross
  · rw [Headroom.spend, hd.notional_eq, hhundredth, add_div]
    refine h.risk.spend hb.risk (div_pos hpos (by norm_num)).le (hgrid'.mono hb.risk_tick) hcost
      (div_pos ha (by norm_num)).le ?_
    rw [div_le_iff₀ (by norm_num)]; exact hrisk

/-! ## The loop -/

/-- What is left after some decisions. -/
def Headroom.spendAll (left : Headroom) (ds : List EntryDecision) : Headroom :=
  ds.foldl Headroom.spend left

/-- An allocation: every decision is its round's, and nothing is bought in the round after the
last, if there is one. -/
inductive Allocated (b : Batch) : ℕ → (String → List String) → Headroom → List EntryDecision → Prop
  | empty (health : String → List String) (left : Headroom) : Allocated b 0 health left []
  | stop {n : ℕ} {health : String → List String} {left : Headroom} {d : EntryDecision}
      (h : b.evaluate health left = .ok d) (hwait : d.action ≠ .buy) :
      Allocated b (n + 1) health left []
  | take {n : ℕ} {health : String → List String} {left : Headroom} {d : EntryDecision}
      {ds : List EntryDecision} (h : b.evaluate health left = .ok d) (hbuy : d.action = .buy)
      (hrest : Allocated b n (Batch.mark health d.symbol ["BATCH_MEMBER_ALREADY_SELECTED"])
        (left.spend d) ds) : Allocated b (n + 1) health left (d :: ds)

theorem Allocated.unique {ds ds' : List EntryDecision} (h : Allocated b n health left ds)
    (h' : Allocated b n health left ds') : ds = ds' := by
  induction h generalizing ds' with
  | empty => cases h'; rfl
  | stop h hwait =>
    cases h' with
    | stop => rfl
    | take h' hbuy _ =>
      obtain rfl := Except.ok.inj (h.symm.trans h'); exact absurd hbuy hwait
  | take h hbuy _ ih =>
    cases h' with
    | stop h' hwait =>
      obtain rfl := Except.ok.inj (h.symm.trans h'); exact absurd hbuy hwait
    | take h' _ hrest =>
      obtain rfl := Except.ok.inj (h.symm.trans h'); rw [ih hrest]

theorem rounds_allocated {chosen ds : List EntryDecision}
    (h : b.rounds n health left chosen = .ok ds) : ∃ picks, Allocated b n health left picks ∧
      (ds = chosen ++ picks ∨ chosen = [] ∧ picks = [] ∧ ∃ d, ds = [d] ∧ d.action = .wait) := by
  induction n generalizing health left chosen with
  | zero =>
    cases h; exact ⟨[], .empty health left, .inl (List.append_nil _).symm⟩
  | succ n ih =>
    obtain ⟨d, hd, h⟩ := Txn.except_bind_ok.1 h; split at h
    · rename_i hwait; refine ⟨[], .stop hd hwait, ?_⟩; cases h; split
      · exact .inl (List.append_nil _).symm
      rename_i hnone; refine .inr ⟨not_not.1 hnone, rfl, d, rfl, ?_⟩
      cases haction : d.action with
      | buy => exact absurd haction hwait
      | wait => rfl
    · rename_i hbuy; rw [not_not] at hbuy; obtain ⟨picks, hpicks, hds⟩ := ih h
      refine ⟨d :: picks, .take hd hbuy hpicks, ?_⟩
      rcases hds with rfl | ⟨hnone, _⟩
      · exact .inl (by rw [List.append_assoc]; rfl)
      · exact absurd hnone (List.append_ne_nil_of_right_ne_nil _ (List.cons_ne_nil _ _))

theorem mark_eq_nil {symbol s : String} {reason : String}
    (h : Batch.mark health symbol [reason] s = []) : s ≠ symbol ∧ health s = [] := by
  unfold Batch.mark at h; split at h
  · cases h
  · rename_i hne; exact ⟨hne, h⟩

theorem Allocated.length_le (h : Allocated b n health left picks) : picks.length ≤ n := by
  induction h with
  | empty => exact le_refl 0
  | stop => exact Nat.zero_le _
  | take _ _ _ ih => exact Nat.succ_le_succ ih

/-- What holds of each decision bought. -/
structure Clear (b : Batch) (health : String → List String) (d : EntryDecision) : Prop where
  action : d.action = .buy
  gates : d.gates = []
  symbol : d.symbol ∈ b.symbols
  available : d.symbol ∉ b.unavailable.map (·.1)
  health : health d.symbol = []
  slots : b.slotReasons = []

theorem evaluate_clear (h : b.evaluate health left = .ok d) (hbuy : d.action = .buy) :
    Clear b health d := by
  obtain ⟨hgates, hsymbol, hunavailable, hhealth, _⟩ := BatchInputs.evaluateCohort_buy h hbuy
  obtain ⟨hown, hslots⟩ := List.append_eq_nil_iff.1 (distinct_eq_nil.1 hhealth)
  exact ⟨hbuy, hgates, hsymbol, hunavailable, hown, hslots⟩

theorem Allocated.clear (h : Allocated b n health left picks) :
    (picks.map (·.symbol)).Nodup ∧ ∀ d ∈ picks, Clear b health d := by
  induction h with
  | empty | stop => exact ⟨List.nodup_nil, fun d hd => absurd hd List.not_mem_nil⟩
  | take h hbuy _ ih =>
    obtain ⟨hnodup, hclear⟩ := ih
    have hnew := fun d hd => mark_eq_nil (hclear d hd).health; constructor
    · rw [List.map_cons, List.nodup_cons]; refine ⟨fun hmem => ?_, hnodup⟩
      obtain ⟨d', hd', hsame⟩ := List.mem_map.1 hmem
      exact (hnew d' hd').1 hsame
    · intro d' hd'; rcases List.mem_cons.1 hd' with rfl | hrest
      · exact evaluate_clear h hbuy
      · exact { hclear d' hrest with health := (hnew d' hrest).2 }

theorem Allocated.purchased (h : Allocated b n health left picks) {pre post : List EntryDecision}
    (hsplit : picks = pre ++ d :: post) :
    ∃ health', b.evaluate health' (left.spendAll pre) = .ok d ∧ d.action = .buy := by
  induction h generalizing pre with
  | empty | stop =>
    exact absurd hsplit.symm (List.append_ne_nil_of_right_ne_nil _ (List.cons_ne_nil _ _))
  | take h hbuy _ ih =>
    cases pre with
    | nil =>
      obtain ⟨rfl, _⟩ := List.cons.inj hsplit; exact ⟨_, h, hbuy⟩
    | cons first pre =>
      obtain ⟨rfl, hrest⟩ := List.cons.inj hsplit; exact ih hrest

/-- `quantity * price`, exactly, over some decisions. -/
def totalCost (ds : List EntryDecision) : ℚ := (ds.map fun d => d.quantity * d.price).sum

theorem Allocated.keeps (hb : b.Representable k grids)
    (hparallel : parallelPolicy b.config b.policy = true) (hleft : Left b grids spent left)
    (h : Allocated b n health left picks) :
    Left b grids (spent + totalCost picks) (left.spendAll picks) ∧
      (picks.map (·.stopRisk)).sum = totalCost picks / 100 := by
  induction h generalizing spent with
  | empty | stop => exact ⟨by simpa [totalCost, Headroom.spendAll] using hleft, by simp [totalCost]⟩
  | take h hbuy _ ih =>
    have hd := evaluate_purchase hb hparallel h hbuy
    obtain ⟨hrest, hrisk⟩ := ih (hleft.spend hb hd); constructor
    · rw [add_assoc] at hrest; simpa [totalCost, Headroom.spendAll] using hrest
    · rw [List.map_cons, List.sum_cons, hrisk, hd.stopRisk_eq, ← add_div]
      simp [totalCost]

/-- The decisions of a prefix that buy. -/
def bought (ds : List EntryDecision) : List EntryDecision := ds.filter (·.action = .buy)

theorem prefix_allocated {ds : List EntryDecision} (h : b.chosenPrefix = .ok ds) :
    parallelPolicy b.config b.policy = true ∧
      (bought ds = ds ∨ bought ds = [] ∧ ∃ d, ds = [d] ∧ d.action = .wait) ∧ (b.members ≠ [] →
        Allocated b b.maximumRounds b.initialHealth b.budget.headroom (bought ds)) ∧
      (b.members = [] → ds = []) := by
  unfold Batch.chosenPrefix at h; split at h
  · cases h
  rename_i hparallel; refine ⟨by simpa using hparallel, ?_⟩; split at h
  · rename_i hnone; cases h
    exact ⟨.inl rfl, fun hsome => absurd hnone hsome, fun _ => rfl⟩
  rename_i hmembers
  obtain ⟨picks, hpicks, hall | ⟨_, rfl, d, rfl, hwait⟩⟩ := rounds_allocated h
  · rw [List.nil_append] at hall
    have hbought : bought ds = ds := by
      rw [hall]
      exact List.filter_eq_self.2 fun d hd => decide_eq_true (hpicks.clear.2 d hd).action
    rw [hbought]
    exact ⟨.inl rfl, fun _ => hall ▸ hpicks, fun h => absurd h hmembers⟩
  · have hnone : bought [d] = [] := by
      unfold bought
      rw [List.filter_cons_of_neg (by rw [hwait]; decide), List.filter_nil]
    rw [hnone]
    exact ⟨.inr ⟨rfl, d, rfl, hwait⟩, fun _ => hpicks, fun h => absurd h hmembers⟩

theorem initialHealth_eq_nil {s : String} (h : b.initialHealth s = []) :
    s ∉ b.budget.occupiedSymbols ∧ b.health s = [] := by
  unfold Batch.initialHealth at h; split at h
  · exact absurd (List.append_eq_nil_iff.1 (distinct_eq_nil.1 h)).2 (List.cons_ne_nil _ _)
  · rename_i hfree; exact ⟨hfree, h⟩

theorem slotReasons_eq_nil (h : b.slotReasons = []) :
    b.budget.objections = [] ∧ 0 < b.budget.remainingSlots := by
  unfold Batch.slotReasons at h; split at h
  · rename_i hne; exact absurd h hne
  · rename_i hnone; split at h
    · cases h
    · exact ⟨not_not.1 hnone, by omega⟩

/-- A decision bought: its symbol is free, nothing objects to it, and its quantity is the entry
quantity of its member for the money available. -/
structure BoughtFor (b : Batch) (available : ℚ) (d : EntryDecision) : Prop where
  clear : Clear b b.initialHealth d
  free : d.symbol ∉ b.budget.occupiedSymbols
  healthy : b.health d.symbol = []
  budget : b.budget.objections = []
  member : ∃ m ∈ b.members, m.symbol = d.symbol ∧ m.price = d.price ∧ m.gatesBefore = [] ∧
    m.gatesAfter = [] ∧ 0 < d.quantity ∧
    (b.terms m available).entryQuantity b.easternHour = .ok d.quantity

/-- **The prefix never overspends**: its symbols are distinct, free and unobjected, cost and
stop risk are within the three amounts, it fits the slots, each quantity is the entry quantity
for what those before it left, and it is the only allocation of its inputs. -/
theorem batch_prefix (hb : b.Representable k grids) {ds : List EntryDecision}
    (h : b.chosenPrefix = .ok ds) :
    (bought ds = ds ∨ bought ds = [] ∧ ∃ d, ds = [d] ∧ d.action = .wait) ∧
    ((bought ds).map (·.symbol)).Nodup ∧ (bought ds).length ≤ b.budget.remainingSlots ∧
    (∀ pre d post, bought ds = pre ++ d :: post →
      BoughtFor b (b.budget.headroom.spendAll pre).available d) ∧
    (Near (totalCost (bought ds)) b.budget.spendableCash ∧
      Near (totalCost (bought ds)) b.budget.grossHeadroom ∧
      Near ((bought ds).map (·.stopRisk)).sum b.budget.riskHeadroom) ∧
    (Roomy grids.cash b.budget.spendableCash → totalCost (bought ds) ≤ b.budget.spendableCash) ∧
    (Roomy grids.gross b.budget.grossHeadroom → totalCost (bought ds) ≤ b.budget.grossHeadroom) ∧
    (Roomy grids.risk b.budget.riskHeadroom →
      ((bought ds).map (·.stopRisk)).sum ≤ b.budget.riskHeadroom) ∧ (b.members ≠ [] → ∀ picks,
      Allocated b b.maximumRounds b.initialHealth b.budget.headroom picks ↔ picks = bought ds) := by
  obtain ⟨hparallel, hone, hallocated, hempty⟩ := prefix_allocated h
  by_cases hmembers : b.members = []
  · -- nothing was observed, so nothing is bought
    obtain rfl := hempty hmembers
    have hstart : Left b grids 0 b.budget.headroom := .start
    refine ⟨.inl rfl, List.nodup_nil, Nat.zero_le _, fun pre d post hsplit => ?_,
      ⟨hstart.cash.near, hstart.gross.near, ?_⟩, fun _ => b.budget.cash_nonneg,
      fun _ => b.budget.gross_nonneg, fun _ => b.budget.risk_nonneg, fun hne => absurd hmembers hne⟩
    · exact absurd hsplit.symm (List.append_ne_nil_of_right_ne_nil _ (List.cons_ne_nil _ _))
    have hrisk := hstart.risk.near; rw [zero_div] at hrisk; exact hrisk
  · have hpicks := hallocated hmembers; obtain ⟨hnodup, hclear⟩ := hpicks.clear
    obtain ⟨hleft, hrisk⟩ := hpicks.keeps hb hparallel Left.start
    rw [zero_add] at hleft
    refine ⟨hone, hnodup, ?_, fun pre d post hsplit => ?_,
      ⟨hleft.cash.near, hleft.gross.near, hrisk ▸ hleft.risk.near⟩, hleft.cash.le, hleft.gross.le,
      fun hroomy => hrisk ▸ hleft.risk.le hroomy, fun _ picks => ?_⟩
    · have hlength := hpicks.length_le; unfold Batch.maximumRounds at hlength
      cases hlist : bought ds with
      | nil => exact Nat.zero_le _
      | cons d rest =>
        obtain ⟨_, hslots⟩ := slotReasons_eq_nil (hclear d (hlist ▸ List.mem_cons_self)).slots
        rw [← hlist]; omega
    · obtain ⟨health', hd, hbuy⟩ := hpicks.purchased hsplit
      obtain ⟨_, _, _, _, m, hm, hsymbol, hprice, hpos, hbefore, hafter, hquantity⟩ :=
        BatchInputs.evaluateCohort_buy hd hbuy
      have hown := hclear d (hsplit ▸ List.mem_append_right _ List.mem_cons_self)
      obtain ⟨hfree, hhealthy⟩ := initialHealth_eq_nil hown.health
      exact ⟨hown, hfree, hhealthy, (slotReasons_eq_nil hown.slots).1, m, hm, hsymbol, hprice,
        hbefore, hafter, hpos, hquantity⟩
    · constructor
      · exact fun hother => hother.unique hpicks
      · rintro rfl; exact hpicks

/-! ### Two budgets -/

def stock (symbol : String) (price : ℚ) (h : 0 < price) : Member where
  symbol := symbol
  price := price
  evaluatedAt := 0
  price_pos := h

/-- Two stocks under the resource-bounded contract. -/
def twoStocks (first second : ℚ) (hfirst : 0 < first) (hsecond : 0 < second)
    (budget : PortfolioBudget) : Batch where
  easternHour := midMorning
  config := boundedConfig
  policy := none
  account := roundAccount
  members := [stock "AAPL" first hfirst, stock "MSFT" second hsecond]
  symbols := ["AAPL", "MSFT"]
  members_nodup := by
    simp only [stock, List.map_cons, List.map_nil, List.append_nil]
    decide
  members_complete := fun s => Iff.rfl
  budget := budget

/-- Three slots, 700 in cash, 600 of gross and 6 of risk. -/
def roundBudget : PortfolioBudget where
  remainingSlots := 3
  spendableCash := 700
  grossHeadroom := 600
  riskHeadroom := 6
  cash_nonneg := by norm_num
  gross_nonneg := by norm_num
  risk_nonneg := by norm_num

def roundBatch : Batch := twoStocks 10 20 (by norm_num) (by norm_num) roundBudget

theorem roundBatch_prefix : ∃ ds, roundBatch.chosenPrefix = .ok ds ∧
    (bought ds).map (fun d => (d.symbol, d.quantity)) = [("AAPL", 50), ("MSFT", 5)] := by
  refine ⟨[⟨"AAPL", 50, 10, [], .buy, none, 0, []⟩,
    ⟨"MSFT", 5, 20, [], .buy, none, 0, [("AAPL", ["BATCH_MEMBER_ALREADY_SELECTED"])]⟩], ?_, ?_⟩
  · decide +kernel
  · decide

theorem roundBatch_representable : roundBatch.Representable 6 ⟨12, 12, 14⟩ where
  tick := le_refl 6
  equity := ⟨100000000000, by norm_num [roundBatch, twoStocks, roundAccount]⟩
  equity_lt := ⟨⟨100000000000000000, by norm_num [roundBatch, twoStocks, roundAccount]⟩,
    by norm_num [roundBatch, twoStocks, roundAccount]⟩
  cash := ⟨⟨60000000000000000, by norm_num [roundBatch, twoStocks, roundAccount]⟩,
    by norm_num [roundBatch, twoStocks, roundAccount]⟩
  power := by
    intro amount h
    cases h
    exact ⟨⟨60000000000000000, by norm_num⟩, by norm_num⟩
  price := by
    intro m hm
    rcases List.mem_cons.1 hm with rfl | hm
    · exact ⟨10000000, by norm_num [stock]⟩
    · obtain rfl := List.mem_singleton.1 hm
      exact ⟨20000000, by norm_num [stock]⟩
  step := by
    intro m hm e he
    rcases List.mem_cons.1 hm with rfl | hm
    · cases he
    · obtain rfl := List.mem_singleton.1 hm
      cases he
  capabilityStep := fun c hc => absurd hc List.not_mem_nil
  cash_tick := le_refl 12
  gross_tick := le_refl 12
  risk_tick := le_refl 14
  spendable := ⟨⟨700000000000000, by norm_num [roundBatch, twoStocks, roundBudget]⟩,
    by norm_num [roundBatch, twoStocks, roundBudget]⟩
  gross := ⟨⟨600000000000000, by norm_num [roundBatch, twoStocks, roundBudget]⟩,
    by norm_num [roundBatch, twoStocks, roundBudget]⟩
  risk := ⟨⟨600000000000000, by norm_num [roundBatch, twoStocks, roundBudget]⟩,
    by norm_num [roundBatch, twoStocks, roundBudget]⟩

theorem batch_prefix_round : ∃ ds, roundBatch.chosenPrefix = .ok ds ∧
    (bought ds).map (fun d => (d.symbol, d.quantity)) = [("AAPL", 50), ("MSFT", 5)] ∧
    totalCost (bought ds) ≤ roundBatch.budget.grossHeadroom := by
  obtain ⟨ds, hds, hbought⟩ := roundBatch_prefix
  obtain ⟨_, _, _, _, _, _, hgross, _⟩ := batch_prefix roundBatch_representable hds
  exact ⟨ds, hds, hbought,
    hgross ⟨⟨600000000000000, by norm_num [roundBatch, twoStocks, roundBudget]⟩,
      by norm_num [roundBatch, twoStocks, roundBudget]⟩⟩

/-- Just under ten in cash. -/
def fineBudget : PortfolioBudget where
  remainingSlots := 3
  spendableCash := 10 - 3 / 10 ^ 27
  grossHeadroom := 1000
  riskHeadroom := 100
  cash_nonneg := by norm_num
  gross_nonneg := by norm_num
  risk_nonneg := L1.hundred_nonneg

/-- Two shares at just under five cost more than the cash: the quotient was rounded up. -/
theorem rounded_prefix_overspends :
    ∃ (b : Batch) (ds : List EntryDecision), b.chosenPrefix = .ok ds ∧ bought ds = ds ∧
      b.budget.spendableCash < totalCost (bought ds) :=
  ⟨twoStocks (5 - 1 / 10 ^ 27) 7 (by norm_num) (by norm_num) fineBudget,
    [⟨"AAPL", 2, 5 - 1 / 10 ^ 27, [], .buy, none, 0, []⟩], by decide +kernel, rfl,
    by decide +kernel⟩

end Quantbot.L4.Entry
