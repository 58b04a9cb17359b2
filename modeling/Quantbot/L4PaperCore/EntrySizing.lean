import Quantbot.L4PaperCore.EntryPolicy
import Quantbot.Core.Txn

/-!
# The entry sizer and the entry gate

`entryQuantity` rounds a quotient of decimals down under several caps, `entryRiskAllowed`
multiplies back. On amounts that lie on one decimal grid with 26 digits (`Representable`)
both compute what the exact numbers say.

Results:
* `boundedQuantity_ok`: a rounded down quotient of an amount by the price costs the amount up
  to three parts in `10²⁷`, and meets the asset's terms.
* `normalQuantity_ok`, `boundedEntry_ok`: what holds of a positive quantity the sizer returns.
* `sizer_gate_agree`: a positive quantity of the sizer whose stop risk fits is accepted by
  the gate, as far as the gate does not look at what the sizer leaves to other checks
  (`SeparatelyChecked`); a quantity `bound_quantity` returns has no quantity objection
  unless it is zero.
-/
namespace Quantbot.L4.Entry

open Core L1
open Core.Decimal

/-! ## Amounts on a grid -/

/-- Prices, steps and the account's equity are multiples of `10⁻ᵏ`, amounts of `10⁻²ᵏ`, below
`10²⁶⁻²ᵏ`. -/
structure EntryTerms.OnTick (i : EntryTerms) (k : ℕ) : Prop where
  tick : 6 ≤ k
  price : OnGrid k i.price
  equity : OnGrid k i.account.equity
  equity_lt : Roomy (k + k) i.account.equity
  cash : Roomy (k + k) i.account.cash
  power : ∀ amount ∈ i.account.nonMarginableBuyingPower, Roomy (k + k) amount
  step : ∀ e ∈ i.eligibility, ∀ s ∈ e.quantityStep, OnGrid k s
  capabilityStep : ∀ c ∈ i.capability, OnGrid k c.quantityStep

/-- So is the notional available. -/
structure EntryTerms.Representable (i : EntryTerms) (k : ℕ) : Prop extends i.OnTick k where
  available : ∀ amount ∈ i.availableNotional, Roomy (k + k) amount

variable {i : EntryTerms} {k : ℕ} {hour : Int → ℕ} {q r : ℚ}

variable {e : AssetEligibility}

theorem crypto_some (h : i.crypto = some e) : i.eligibility = some e ∧ e.assetClass = .crypto := by
  obtain ⟨he, hclass⟩ := Option.filter_eq_some_iff.1 h
  exact ⟨he, by simpa using hclass⟩

/-! ## Rounded down quantities -/

/-- A bounded quantity is zero, or a multiple of the step of at least the minimum. -/
theorem boundQuantity_eq {x : ℚ} (h : e.boundQuantity x = .ok q) (hq : q ≠ 0) :
    e.assetClass = .crypto ∧ ∃ s, e.quantityStep = some s ∧ 0 < s ∧
      q = stepDown x s ∧ e.minimumQuantity.getD 0 ≤ q := by
  unfold AssetEligibility.boundQuantity at h; split at h
  · rename_i s hclass hstep; simp only [Except.ok.injEq] at h; split at h
    · rename_i hmin
      exact ⟨hclass, s, hstep, e.quantityStep_pos s hstep, h.symm, h ▸ hmin⟩
    · exact absurd h.symm hq
  · cases h

/-- Whole multiples of the step above the minimum meet every quantity objection. -/
theorem quantityObjections_nil {n : ℤ} {s : ℚ} (hclass : e.assetClass = .crypto)
    (hstep : e.quantityStep = some s) (hs : 0 < s) (hn : n.natAbs < 10 ^ precision)
    (hmin : e.minimumQuantity.getD 0 ≤ n * s) : quantityObjections e (n * s) = .ok [] := by
  obtain ⟨hfractionable, _⟩ := e.crypto_terms hclass; unfold quantityObjections
  rw [if_neg (by rw [hfractionable]; simp), if_pos hclass, if_neg (not_lt.2 hmin)]
  simp only [hstep, remainder_multiple hs hn, ne_eq, not_true_eq_false, if_false]

/-- What `entry_quantity` relies on where it rounds an amount over the price down. -/
structure Bought (i : EntryTerms) (k : ℕ) (r q : ℚ) : Prop where
  grid : OnGrid k q
  amount_pos : 0 < r
  cost : Near (q * i.price) r
  terms : ∀ e, i.crypto = some e → quantityObjections e q = .ok []

theorem boundedQuantity_ok (hi : i.OnTick k) (hr : r * 10 ^ (k + k) < 10 ^ 26)
    (h : i.boundedQuantity (div r i.price) = .ok q) (hq : 0 < q) : Bought i k r q := by
  have hmultiple : ∀ {n : ℤ} {s : ℚ}, OnGrid k s → OnGrid k (n * s) := by
    intro n s hs; have hmul := (OnGrid.intCast 0 n).mul hs
    rwa [Nat.zero_add] at hmul
  unfold EntryTerms.boundedQuantity at h; split at h
  · rename_i e hcrypto
    obtain ⟨hclass, s, hstep, hs, heq, hmin⟩ := boundQuantity_eq h hq.ne'
    obtain ⟨he, _⟩ := crypto_some hcrypto; have hgrid := hi.step e he s hstep
    obtain ⟨n, _, hdigits, hn, hpos, hcost⟩ :=
      near_of_stepDown i.price_pos hs hgrid hi.price hr (heq ▸ hq)
    rw [hn] at heq; refine ⟨heq ▸ hmultiple hgrid, hpos, heq ▸ hcost, ?_⟩
    intro e' he'
    obtain rfl : e = e' := Option.some.inj (hcrypto.symm.trans he')
    rw [heq] at hmin ⊢
    exact quantityObjections_nil hclass hstep hs hdigits hmin
  · rename_i c hcrypto hcapability
    simp only [AssetCapability.boundQuantity, Except.ok.injEq] at h; split at h
    · have hgrid := hi.capabilityStep c hcapability
      obtain ⟨n, _, _, hn, hpos, hcost⟩ :=
        near_of_stepDown i.price_pos c.quantityStep_pos hgrid hi.price hr (h ▸ hq)
      rw [hn] at h
      exact ⟨h ▸ hmultiple hgrid, hpos, h ▸ hcost, fun e he => by rw [hcrypto] at he; cases he⟩
    · exact absurd h.symm hq.ne'
  · rename_i hcrypto _; split at h
    · rename_i q' hquantize; cases h
      obtain ⟨hpos, hcost⟩ := near_of_quantized i.price_pos hq hquantize
      exact ⟨(quantizeDown_grid hquantize).mono hi.tick, hpos, hcost,
        fun e he => by rw [hcrypto] at he; cases he⟩
    · cases h

theorem Bought.le (hi : i.OnTick k) (h : Bought i k r q) (hr : Roomy (k + k) r) : q * i.price ≤ r :=
  h.cost.le (le_refl r) h.amount_pos.le (h.grid.mul hi.price) hr

/-! ## Caps -/

variable {bps : ℕ}

theorem bpsOf_equity (hi : i.OnTick k) (h : bps ≤ 10000) :
    bpsOf i.account.equity bps = i.account.equity * bps / 10000 ∧
      OnGrid (k + 4) (bpsOf i.account.equity bps) ∧ Roomy (k + k) (bpsOf i.account.equity bps) := by
  have hequity := i.account.equity_nonneg
  have hbps : (bps : ℚ) ≤ 10000 := by exact_mod_cast h
  have hprod : 0 ≤ i.account.equity * bps := mul_nonneg hequity (Nat.cast_nonneg bps)
  have hpow : (0 : ℚ) < 10 ^ k := by positivity
  have hgrid : OnGrid k (i.account.equity * bps) := by
    have hmul := hi.equity.mul (OnGrid.intCast 0 bps)
    rwa [Nat.add_zero, Int.cast_natCast] at hmul
  have hsmall : i.account.equity * 10 ^ k < 10 ^ 20 := by
    have hroomy := hi.equity_lt.2
    have htick : (10 : ℚ) ^ 6 ≤ 10 ^ k := pow_le_pow_right₀ (by norm_num) hi.tick
    rw [abs_of_nonneg hequity, pow_add, ← mul_assoc] at hroomy
    have hstep : i.account.equity * 10 ^ k * 10 ^ 6 ≤ i.account.equity * 10 ^ k * 10 ^ k :=
      mul_le_mul_of_nonneg_left htick (mul_nonneg hequity hpow.le)
    linarith
  have hmul : mul i.account.equity bps = i.account.equity * bps := by
    refine mul_exact hgrid ?_; rw [abs_of_nonneg hprod]
    calc i.account.equity * bps * 10 ^ k = i.account.equity * 10 ^ k * bps := by ring
      _ ≤ i.account.equity * 10 ^ k * 10000 :=
        mul_le_mul_of_nonneg_left hbps (mul_nonneg hequity hpow.le)
      _ < 10 ^ 28 := by linarith
  have hquot : OnGrid (k + 4) (i.account.equity * bps / 10000) := by
    have hdiv := hgrid.divPow 4; exact hdiv
  have hle : i.account.equity * bps / 10000 ≤ i.account.equity := by
    rw [div_le_iff₀ (by norm_num)]; exact mul_le_mul_of_nonneg_left hbps hequity
  have hroomy : Roomy (k + k) (i.account.equity * bps / 10000) :=
    Roomy.of_le (hquot.mono (by have := hi.tick; omega)) hi.equity_lt
      (div_nonneg hprod (by norm_num)) hle
  have hexact : bpsOf i.account.equity bps = i.account.equity * bps / 10000 := by
    unfold bpsOf; rw [hmul]; exact round_fits hroomy.fits
  rw [hexact]; exact ⟨rfl, hquot, hroomy⟩

theorem target_le (hi : i.OnTick k) (h : bps ≤ 10000) :
    i.target bps ≤ bpsOf i.account.equity bps ∧ Roomy (k + k) (i.target bps) := by
  obtain ⟨hexact, hgrid, hroomy⟩ := bpsOf_equity hi h; unfold EntryTerms.target
  split
  · have hratio : div (10000 - sizingHeadroomBps) 10000 = 99 / 100 := by decide +kernel
    have hcap : 0 ≤ bpsOf i.account.equity bps := by
      rw [hexact]
      exact div_nonneg (mul_nonneg i.account.equity_nonneg (Nat.cast_nonneg bps)) (by norm_num)
    have hprod : OnGrid (k + k) (bpsOf i.account.equity bps * (99 / 100)) := by
      have hmul := hgrid.mul (⟨99, by norm_num⟩ : OnGrid 2 (99 / 100))
      exact hmul.mono (by have := hi.tick; omega)
    have hle : bpsOf i.account.equity bps * (99 / 100) ≤ bpsOf i.account.equity bps := by linarith
    have hroomy' : Roomy (k + k) (bpsOf i.account.equity bps * (99 / 100)) :=
      Roomy.of_le hprod hroomy (by positivity) hle
    rw [hratio, show mul (bpsOf i.account.equity bps) (99 / 100) = _ from round_fits hroomy'.fits]
    exact ⟨hle, hroomy'⟩
  · exact ⟨le_refl _, hroomy⟩

variable {bound : EconomicLimits}

theorem reserve_roomy (hi : i.OnTick k) (h : bound.reserveBps ≤ 10000) :
    Roomy (k + k) (sub i.account.cash (bpsOf i.account.equity bound.reserveBps)) := by
  obtain ⟨hexact, _, hroomy⟩ := bpsOf_equity hi h
  rw [sub_exact hi.cash.fits hroomy.fits]; refine ⟨hi.cash.1.sub hroomy.1, ?_⟩
  have hcap : 0 ≤ bpsOf i.account.equity bound.reserveBps := by
    rw [hexact]
    exact div_nonneg (mul_nonneg i.account.equity_nonneg (Nat.cast_nonneg _)) (by norm_num)
  have hcash := i.account.cash_nonneg
  have habs : |i.account.cash - bpsOf i.account.equity bound.reserveBps| ≤
      max |i.account.cash| |bpsOf i.account.equity bound.reserveBps| := by
    rw [abs_of_nonneg hcash, abs_of_nonneg hcap, abs_sub_le_iff]
    exact ⟨(sub_le_self _ hcap).trans (le_max_left ..), (sub_le_self _ hcash).trans (le_max_right ..)⟩
  refine lt_of_le_of_lt (mul_le_mul_of_nonneg_right habs (by positivity)) ?_
  rcases max_choice |i.account.cash| |bpsOf i.account.equity bound.reserveBps| with hm | hm <;>
    rw [hm]
  · exact hi.cash.2
  · exact hroomy.2

theorem available_roomy (hi : i.Representable k) (h : bound.reserveBps ≤ 10000) :
    Roomy (k + k) (i.available bound) := by
  refine (Roomy.zero _).max (((reserve_roomy hi.toOnTick h).min ?_).min ?_)
  · cases havailable : i.availableNotional with
    | none => exact hi.cash
    | some amount => exact hi.available amount havailable
  · split
    · cases hpower : i.account.nonMarginableBuyingPower with
      | none => exact Roomy.zero _
      | some amount => exact hi.power amount hpower
    · exact hi.cash

/-! ## The sizer -/

/-- The share of the equity a position may take. -/
def EntryTerms.PositionCap (hour : Int → ℕ) (i : EntryTerms) (cap : ℚ) : Prop :=
  ∃ bps, i.positionBps hour = .ok bps ∧ cap = bpsOf i.account.equity bps

theorem positionBps_le (h : i.positionBps hour = .ok bps) : bps ≤ 50 := by
  unfold EntryTerms.positionBps at h; split at h
  · cases h; exact le_refl 50
  · cases h
  · cases h; split <;> decide

/-- Whether the one-share fallback applies. -/
def EntryTerms.wholeShares (i : EntryTerms) : Prop := i.policy.isSome ∧ i.fractionable = some false

/-- A positive normal quantity is one share by the fallback, or within the position cap. -/
structure Normal (hour : Int → ℕ) (i : EntryTerms) (k : ℕ) (q : ℚ) : Prop where
  grid : OnGrid k q
  cap : ∃ cap, i.PositionCap hour cap ∧ Roomy (k + k) cap ∧
    (q * i.price ≤ cap ∨ i.wholeShares ∧ q = 1)
  terms : ¬ i.wholeShares → ∀ e, i.crypto = some e → quantityObjections e q = .ok []

theorem normalQuantity_ok (hi : i.OnTick k) (h : i.normalQuantity hour = .ok q)
    (hq : 0 < q) : Normal hour i k q := by
  obtain ⟨bps, hbps, h⟩ := Txn.except_bind_ok.1 h
  obtain ⟨normal, hnormal, h⟩ := Txn.except_bind_ok.1 h
  have hle : bps ≤ 10000 := (positionBps_le hbps).trans (by norm_num)
  obtain ⟨htarget, htargetRoomy⟩ := target_le hi hle
  obtain ⟨_, _, hcap⟩ := bpsOf_equity hi hle; split at h
  · -- whole shares: the rounded down quantity, at least one
    rename_i hwhole; cases h
    refine ⟨?_, ⟨_, ⟨bps, hbps, rfl⟩, hcap, ?_⟩, fun hno => absurd hwhole hno⟩
    · rcases max_choice (1 : ℚ) (truncate normal) with hm | hm <;> rw [hm]
      · exact_mod_cast OnGrid.intCast k 1
      · exact OnGrid.intCast k _
    · rcases le_or_gt (truncate normal : ℚ) 1 with hone | hmany
      · exact .inr ⟨hwhole, max_eq_left hone⟩
      left
      have hpos : 0 < normal :=
        pos_of_truncate_pos (by exact_mod_cast lt_trans zero_lt_one hmany)
      have hcost := (boundedQuantity_ok hi htargetRoomy.lt hnormal hpos).le hi htargetRoomy
      rw [max_eq_right hmany.le]
      calc (truncate normal : ℚ) * i.price ≤ normal * i.price :=
            mul_le_mul_of_nonneg_right (truncate_le hpos.le) i.price_pos.le
        _ ≤ i.target bps := hcost
        _ ≤ bpsOf i.account.equity bps := htarget
  · cases h; have hbought := boundedQuantity_ok hi htargetRoomy.lt hnormal hq
    exact ⟨hbought.grid, ⟨_, ⟨bps, hbps, rfl⟩, hcap, .inl ((hbought.le hi htargetRoomy).trans
      htarget)⟩, fun _ => hbought.terms⟩

theorem cost_exact (hi : i.OnTick k) (hq : 0 < q) (hgrid : OnGrid k q)
    (hr : Roomy (k + k) r) (h : q * i.price ≤ r) : mul q i.price = q * i.price :=
  round_fits (Roomy.of_le (hgrid.mul hi.price) hr (mul_pos hq i.price_pos).le h).fits

variable {config : EntryConfig}

theorem limits_ok (h : limits hour config i.policy i.at' = .ok bound) :
    i.positionBps hour = .ok bound.positionBps ∧ bound.reserveBps = 500 ∧ bound.stopBps = 100 := by
  unfold limits at h; unfold EntryTerms.positionBps; simp only at h; split at h
  · cases h; split <;> exact ⟨rfl, rfl, rfl⟩
  · cases h
  split at h
  · rename_i hsleep; cases h; refine ⟨?_, ?_, ?_⟩
    · rw [if_pos hsleep]
    · split <;> rfl
    · split <;> rfl
  · rename_i hsleep; cases h; refine ⟨?_, ?_, ?_⟩
    · rw [if_neg hsleep]; split <;> rfl
    · split <;> rfl
    · split <;> rfl

/-- The money available is at most each of the three amounts it is the least of. -/
theorem available_le (hpos : 0 < i.available bound) :
    i.available bound ≤ sub i.account.cash (bpsOf i.account.equity bound.reserveBps) ∧
      i.available bound ≤ i.availableNotional.getD i.account.cash ∧ i.available bound ≤
        if i.crypto.isSome then i.account.nonMarginableBuyingPower.getD 0 else i.account.cash := by
  unfold EntryTerms.available at hpos ⊢; rw [lt_max_iff] at hpos
  rw [max_eq_right (hpos.resolve_left (lt_irrefl 0)).le]
  exact ⟨(min_le_left _ _).trans (min_le_left _ _), (min_le_left _ _).trans (min_le_right _ _),
    min_le_right _ _⟩

theorem available_lt (hi : i.OnTick k) (hbound : limits hour config i.policy i.at' = .ok bound) :
    i.available bound * 10 ^ (k + k) < 10 ^ 26 := by
  obtain ⟨_, hreserve, _⟩ := limits_ok hbound
  have hroomy := reserve_roomy hi (show bound.reserveBps ≤ 10000 by omega)
  rcases le_or_gt (i.available bound) 0 with hzero | hpos
  · exact lt_of_le_of_lt (mul_nonpos_of_nonpos_of_nonneg hzero (by positivity)) (by norm_num)
  · exact lt_of_le_of_lt (mul_le_mul_of_nonneg_right (available_le hpos).1 (by positivity))
      hroomy.lt

/-- Under the resource-bounded contract the cost is also nearly within the money available. -/
theorem boundedEntry_ok (hi : i.OnTick k) (h : i.boundedEntry hour config = .ok q) (hq : 0 < q) :
    ∃ bound, limits hour config i.policy i.at' = .ok bound ∧ Normal hour i k q ∧
      0 < i.available bound ∧ i.available bound * 10 ^ (k + k) < 10 ^ 26 ∧
      Near (q * i.price) (i.available bound) ∧ mul q i.price = q * i.price := by
  obtain ⟨bound, hbound, h⟩ := Txn.except_bind_ok.1 h
  obtain ⟨normal, hnormal, h⟩ := Txn.except_bind_ok.1 h
  have hsize := available_lt hi hbound; refine ⟨bound, hbound, ?_⟩; split at h
  · cases h; split at hq
    · rename_i hfits; rw [if_pos hfits]
      have hn := normalQuantity_ok hi hnormal hq
      have hcost := mul_pos hq i.price_pos
      have hnear := near_of_mul_le hcost.le hfits
      have hexact := hnear.mul_exact hcost.le (hn.grid.mul hi.price) hsize
      rw [hexact] at hfits
      exact ⟨hn, hcost.trans_le hfits, hsize, hnear, hexact⟩
    · exact absurd hq (lt_irrefl 0)
  · rename_i hshares
    obtain ⟨availableQuantity, havailable, h⟩ := Txn.except_bind_ok.1 h; cases h
    obtain ⟨hpos, hpos'⟩ := lt_min_iff.1 hq
    have hn := normalQuantity_ok hi hnormal hpos
    have ha := boundedQuantity_ok hi hsize havailable hpos'
    have hnear : Near (min normal availableQuantity * i.price) (i.available bound) :=
      (mul_le_mul_of_nonneg_right (min_le_right _ _) i.price_pos.le).trans ha.cost
    have hgrid : OnGrid k (min normal availableQuantity) := by
      rcases min_choice normal availableQuantity with hm | hm <;> rw [hm]
      · exact hn.grid
      · exact ha.grid
    have hnot : ¬ i.wholeShares := fun hw => hshares hw.2
    refine ⟨⟨hgrid, ?_, ?_⟩, ha.amount_pos, hsize, hnear,
      hnear.mul_exact (mul_pos hq i.price_pos).le (hgrid.mul hi.price) hsize⟩
    · obtain ⟨cap, hcap, hcapRoomy, hle⟩ := hn.cap
      refine ⟨cap, hcap, hcapRoomy, .inl ?_⟩; rcases hle with hle | ⟨hw, _⟩
      · exact (mul_le_mul_of_nonneg_right (min_le_left _ _) i.price_pos.le).trans hle
      · exact absurd hw hnot
    · intro _ e he
      rcases min_choice normal availableQuantity with hm | hm <;> rw [hm]
      · exact hn.terms hnot e he
      · exact ha.terms e he

theorem boundedEntry_le (hi : i.Representable k) (h : i.boundedEntry hour config = .ok q)
    (hq : 0 < q) : ∃ bound, limits hour config i.policy i.at' = .ok bound ∧ Normal hour i k q ∧
      0 < i.available bound ∧ q * i.price ≤ i.available bound ∧ mul q i.price = q * i.price := by
  obtain ⟨bound, hbound, hn, hpos, _, hnear, hexact⟩ := boundedEntry_ok hi.toOnTick h hq
  obtain ⟨_, hreserve, _⟩ := limits_ok hbound
  have hroomy := available_roomy hi (show bound.reserveBps ≤ 10000 by omega)
  exact ⟨bound, hbound, hn, hpos,
    hnear.le (le_refl _) hpos.le (hn.grid.mul hi.price) hroomy, hexact⟩

/-! ## The gate -/

/-- The stop of a position of this size costs at most its share of the equity. -/
def EntryTerms.StopRiskFits (hour : Int → ℕ) (i : EntryTerms) (q : ℚ) : Prop :=
  (∀ config ∈ i.config, parallelPolicy config i.policy → ∃ bound,
    limits hour config i.policy i.at' = .ok bound ∧
    bpsOf (mul q i.price) bound.stopBps ≤ bpsOf i.account.equity bound.entryRiskBps) ∧
  (i.parallel = false → mul (mul q i.price) (1 / 100) ≤ mul i.account.equity (25 / 10000))

/-- What the gate looks at and the sizer leaves to the other checks of the entry path: the
age and policy of a crypto asset's evidence; without the resource-bounded contract, the money. -/
structure EntryTerms.SeparatelyChecked (i : EntryTerms) (q : ℚ) : Prop where
  evidence : ∀ e, i.crypto = some e → ∃ p at', i.policy = some p ∧ i.at' = some at' ∧
    e.Current e.symbol at' 120 (some p.id)
  cash : i.parallel = false → mul q i.price ≤ i.account.cash
  buyingPower : i.parallel = false → mul q i.price ≤ mul i.account.buyingPower (95 / 100)
  nonMarginable : i.parallel = false → ∀ e, i.crypto = some e →
    ∃ power ∈ i.account.nonMarginableBuyingPower, mul q i.price ≤ power

theorem parallel_some (hconfig : i.config = some config) :
    i.parallel = parallelPolicy config i.policy := by
  unfold EntryTerms.parallel; rw [hconfig]; rfl

theorem entryQuantity_cases (h : i.entryQuantity hour = .ok q) (hq : 0 < q) :
    (∀ e, i.crypto = some e → i.permitted e.symbol = true) ∧
      ((∃ config, i.config = some config ∧ parallelPolicy config i.policy = true ∧
          i.boundedEntry hour config = .ok q) ∨
        i.parallel = false ∧ i.normalQuantity hour = .ok q) := by
  unfold EntryTerms.entryQuantity at h; split at h
  · cases h; exact absurd hq (lt_irrefl 0)
  rename_i hpermitted; constructor
  · intro e he; rw [he] at hpermitted; simpa using hpermitted
  · cases hconfig : i.config with
    | none =>
      simp only [hconfig] at h; refine .inr ⟨?_, h⟩; unfold EntryTerms.parallel
      rw [hconfig]; rfl
    | some config =>
      simp only [hconfig] at h; split at h
      · rename_i hparallel; exact .inl ⟨config, rfl, hparallel, h⟩
      · rename_i hparallel
        exact .inr ⟨(parallel_some hconfig).trans (by simpa using hparallel), h⟩

theorem not_wholeShares (hfraction : ∀ e ∈ i.eligibility, i.fractionable = some e.fractionable)
    (he : i.crypto = some e) : ¬ i.wholeShares := by
  obtain ⟨heligibility, hclass⟩ := crypto_some he; intro hw
  have h := hw.2.symm.trans (hfraction e heligibility)
  rw [(e.crypto_terms hclass).1] at h; cases h

theorem cryptoRefused_false {share : Bool} (hterms : quantityObjections e q = .ok [])
    (hpermitted : i.permitted e.symbol = true) (hshare : share = false) :
    i.cryptoRefused e q share = .ok false ↔
      (∃ p at', i.policy = some p ∧ i.at' = some at' ∧ e.Current e.symbol at' 120 (some p.id)) ∧
        ∃ power ∈ i.account.nonMarginableBuyingPower, mul q i.price ≤ power := by
  unfold EntryTerms.cryptoRefused
  cases hpolicy : i.policy with
  | none => simp
  | some p =>
    cases hat : i.at' with
    | none => simp
    | some at' =>
      have hp : ¬ (p.crypto = none ∨ p.permits e.symbol = false) := by
        unfold EntryTerms.permitted at hpermitted; rw [hpolicy] at hpermitted
        simp only [Option.any_some, Bool.and_eq_true, Option.isSome_iff_ne_none] at hpermitted
        rintro (hnone | hrefused)
        · exact hpermitted.1 hnone
        · rw [hrefused] at hpermitted; exact Bool.false_ne_true hpermitted.2
      simp only [if_neg hp, eligibilityObjections, hterms, hshare]
      by_cases hcurrent : e.Current e.symbol at' 120 (some p.id)
      · simp only [hcurrent, not_true, if_false]
        cases hpower : i.account.nonMarginableBuyingPower with
        | none => simp [Bind.bind, Except.bind, pure, Except.pure]
        | some power =>
          simp [Bind.bind, Except.bind, pure, Except.pure, hcurrent]
      · simp [hcurrent, Bind.bind, Except.bind, pure, Except.pure]

theorem minimumWholeShare_iff : i.minimumWholeShare q = true ↔ i.wholeShares ∧ q = 1 := by
  unfold EntryTerms.minimumWholeShare EntryTerms.wholeShares
  rw [decide_eq_true_eq, and_assoc]

/-- Every bound of the resource-bounded contract but the stop's is one of the sizer's caps. -/
theorem bounded_of_boundedEntry (hq : 0 < q) (hn : Normal hour i k q)
    (hbound : limits hour config i.policy i.at' = .ok bound) (hpos : 0 < i.available bound)
    (hcost : q * i.price ≤ i.available bound) (hexact : mul q i.price = q * i.price)
    (hstop : bpsOf (mul q i.price) bound.stopBps ≤ bpsOf i.account.equity bound.entryRiskBps) :
    i.Bounded bound q (i.minimumWholeShare q) := by
  obtain ⟨hreserve, havailable, _⟩ := available_le hpos
  refine ⟨hq, ?_, hstop, ?_, ?_⟩
  · obtain ⟨cap, ⟨bps, hbps, rfl⟩, _, hle | hone⟩ := hn.cap
    · left; obtain ⟨hlimits, _⟩ := limits_ok hbound
      rw [hexact, ← Except.ok.inj (hbps.symm.trans hlimits)]; exact hle
    · exact .inr ⟨minimumWholeShare_iff.2 hone, hone.2⟩
  · rw [hexact]; exact (hcost.trans hreserve).trans (le_max_right _ _)
  · intro amount hamount
    rw [show i.availableNotional = some amount from hamount] at havailable
    rw [hexact]; exact hcost.trans havailable

theorem legacyBounded_iff (hi : i.OnTick k) (hq : 0 < q) (hn : Normal hour i k q)
    (hstop : mul (mul q i.price) (1 / 100) ≤ mul i.account.equity (25 / 10000)) :
    i.LegacyBounded q (i.minimumWholeShare q) ↔
      mul q i.price ≤ i.account.cash ∧ mul q i.price ≤ mul i.account.buyingPower (95 / 100) := by
  have hposition : mul q i.price ≤ mul i.account.equity (5 / 1000) ∨
      i.minimumWholeShare q = true ∧ q = 1 := by
    obtain ⟨cap, ⟨bps, hbps, rfl⟩, hroomy, hle | hone⟩ := hn.cap
    · left
      have hshare : bpsOf i.account.equity 50 = mul i.account.equity (5 / 1000) := by
        obtain ⟨hexact, hgrid, hroomy⟩ := bpsOf_equity hi (show 50 ≤ 10000 by norm_num)
        have heq : i.account.equity * (5 / 1000) = i.account.equity * (50 : ℕ) / 10000 := by
          ring
        rw [hexact] at hroomy; rw [hexact, ← heq]; rw [← heq] at hroomy
        exact (round_fits hroomy.fits).symm
      rw [← hshare, cost_exact hi hq hn.grid hroomy hle]; refine hle.trans ?_
      have hbps' := positionBps_le hbps
      obtain ⟨hexact, _⟩ := bpsOf_equity hi (show bps ≤ 10000 by omega)
      obtain ⟨hexact', _⟩ := bpsOf_equity hi (show 50 ≤ 10000 by norm_num)
      rw [hexact, hexact']
      have hcast : (bps : ℚ) ≤ (50 : ℕ) := by exact_mod_cast hbps'
      exact div_le_div_of_nonneg_right
        (mul_le_mul_of_nonneg_left hcast i.account.equity_nonneg) (by norm_num)
    · exact .inr ⟨minimumWholeShare_iff.2 hone, hone.2⟩
  constructor
  · intro h; exact h.2.2.2
  · intro h; exact ⟨hq, hposition, hstop, h⟩

/-- A crypto entry of the resource-bounded contract is within the non-marginable power. -/
theorem nonMarginable_covers (he : i.crypto = some e) (hpos : 0 < i.available bound)
    (hcost : mul q i.price ≤ i.available bound) :
    ∃ power ∈ i.account.nonMarginableBuyingPower, mul q i.price ≤ power := by
  obtain ⟨_, _, hpower⟩ := available_le hpos; rw [he] at hpower
  cases hsome : i.account.nonMarginableBuyingPower with
  | none =>
    rw [hsome] at hpower; exact absurd hpos (not_lt.2 hpower)
  | some power =>
    rw [hsome] at hpower; exact ⟨power, rfl, hcost.trans hpower⟩

/-- The gate accepts a size the sizer chose as far as the rest of the entry path does. -/
theorem entryRiskAllowed_iff (hi : i.Representable k)
    (hfraction : ∀ e ∈ i.eligibility, i.fractionable = some e.fractionable)
    (h : i.entryQuantity hour = .ok q) (hq : 0 < q) (hstop : i.StopRiskFits hour q) :
    i.entryRiskAllowed hour q (i.minimumWholeShare q) = .ok true ↔ i.SeparatelyChecked q := by
  obtain ⟨hpermitted, hcases⟩ := entryQuantity_cases h hq
  have hn : Normal hour i k q := by
    rcases hcases with ⟨config, _, _, hentry⟩ | ⟨_, hnormal⟩
    · obtain ⟨_, _, hn, _⟩ := boundedEntry_le hi hentry hq; exact hn
    · exact normalQuantity_ok hi.toOnTick hnormal hq
  have hallow : i.boundsAllow hour q (i.minimumWholeShare q) = .ok true ↔
      (i.parallel = false → mul q i.price ≤ i.account.cash ∧
        mul q i.price ≤ mul i.account.buyingPower (95 / 100)) := by
    rcases hcases with ⟨config, hconfig, hparallel, hentry⟩ | ⟨hparallel, _⟩
    · obtain ⟨bound, hbound, _, hpos, hcost, hexact⟩ := boundedEntry_le hi hentry hq
      obtain ⟨bound', hbound', hrisk⟩ := hstop.1 config hconfig hparallel
      obtain rfl := Except.ok.inj (hbound.symm.trans hbound')
      have hall := bounded_of_boundedEntry hq hn hbound hpos hcost hexact hrisk
      refine iff_of_true ?_ fun hfalse => ?_
      · unfold EntryTerms.boundsAllow; rw [hconfig]
        simp only [hparallel, if_true, hbound]
        exact congrArg Except.ok (decide_eq_true hall)
      · rw [parallel_some hconfig, hparallel] at hfalse; cases hfalse
    · have hlegacy := legacyBounded_iff hi.toOnTick hq hn (hstop.2 hparallel)
      have hvalue : i.boundsAllow hour q (i.minimumWholeShare q) =
          .ok (decide (i.LegacyBounded q (i.minimumWholeShare q))) := by
        unfold EntryTerms.boundsAllow
        cases hconfig : i.config with
        | none => rfl
        | some config =>
          have hnot := (parallel_some hconfig).symm.trans hparallel
          simp only [hnot, Bool.false_eq_true, if_false]
      rw [hvalue, Except.ok.injEq, decide_eq_true_eq, hlegacy]
      exact ⟨fun h _ => h, fun h => h hparallel⟩
  unfold EntryTerms.entryRiskAllowed
  cases hcrypto : i.crypto with
  | none =>
    have hnone : ∀ e, i.crypto ≠ some e := by
      intro e he; rw [hcrypto] at he; cases he
    rw [hallow]; constructor
    · intro h
      exact ⟨fun e he => absurd he (hnone e), fun hp => (h hp).1, fun hp => (h hp).2,
        fun _ e he => absurd he (hnone e)⟩
    · intro h hp; exact ⟨h.cash hp, h.buyingPower hp⟩
  | some e =>
    have hwhole := not_wholeShares hfraction hcrypto
    have hshare : i.minimumWholeShare q = false := by
      rw [← Bool.not_eq_true, minimumWholeShare_iff]
      exact fun hone => hwhole hone.1
    have hrefused := cryptoRefused_false (hn.terms hwhole e hcrypto) (hpermitted e hcrypto) hshare
    have hsplit : (do
        let refused ← i.cryptoRefused e q (i.minimumWholeShare q)
        if refused then return false
        i.boundsAllow hour q (i.minimumWholeShare q) : Except EntryFault Bool) = .ok true ↔
        i.cryptoRefused e q (i.minimumWholeShare q) = .ok false ∧
          i.boundsAllow hour q (i.minimumWholeShare q) = .ok true := by
      cases i.cryptoRefused e q (i.minimumWholeShare q) with
      | error fault => simp [Bind.bind, Except.bind]
      | ok refused => cases refused <;> simp [Bind.bind, Except.bind, pure, Except.pure]
    refine hsplit.trans ?_; rw [hallow, hrefused]; constructor
    · rintro ⟨⟨hevidence, hpower⟩, hmoney⟩
      refine ⟨fun e' he' => ?_, fun hp => (hmoney hp).1, fun hp => (hmoney hp).2,
        fun _ _ _ => hpower⟩
      obtain rfl : e = e' := Option.some.inj (hcrypto.symm.trans he')
      exact hevidence
    · intro h
      refine ⟨⟨h.evidence e hcrypto, ?_⟩, fun hp => ⟨h.cash hp, h.buyingPower hp⟩⟩
      rcases hcases with ⟨config, _, _, hentry⟩ | ⟨hparallel, _⟩
      · obtain ⟨bound, _, _, hpos, hcost, hexact⟩ := boundedEntry_le hi hentry hq
        exact nonMarginable_covers hcrypto hpos (hexact ▸ hcost)
      · exact h.nonMarginable hparallel e hcrypto

/-- A quantity `bound_quantity` returns meets the asset's quantity terms, unless it is zero. -/
theorem boundQuantity_accepted {x : ℚ} (hstep : ∀ s ∈ e.quantityStep, OnGrid k s)
    (hx : x * 10 ^ k < 10 ^ 26) (h : e.boundQuantity x = .ok q) (hq : q ≠ 0) :
    quantityObjections e q = .ok [] := by
  obtain ⟨hclass, s, hs, hspos, heq, hmin⟩ := boundQuantity_eq h hq
  have hpos : 0 < q := by
    obtain ⟨_, hsome, _⟩ := e.crypto_terms hclass
    obtain ⟨m, hm⟩ := Option.isSome_iff_exists.1 hsome; rw [hm] at hmin
    exact lt_of_lt_of_le (e.minimumQuantity_pos m hm) hmin
  obtain ⟨n, _, hn, _, hdigits⟩ :=
    stepDown_multiple hspos (hstep s hs) (hx.trans (by norm_num)) (heq ▸ hpos)
  rw [heq, hn] at hmin ⊢
  exact quantityObjections_nil hclass hs hspos hdigits hmin

/-- **Sizer and gate agree.** A positive size whose stop risk fits is accepted by the gate as
far as the rest of the entry path accepts it, and a quantity rounded down for an asset adds no
objection to the asset's own, unless it is zero. -/
theorem sizer_gate_agree (hour : Int → ℕ) (k : ℕ) : (∀ (i : EntryTerms) (q : ℚ), i.Representable k →
      (∀ e ∈ i.eligibility, i.fractionable = some e.fractionable) →
      i.entryQuantity hour = .ok q → 0 < q → i.StopRiskFits hour q →
      (i.entryRiskAllowed hour q (i.minimumWholeShare q) = .ok true ↔ i.SeparatelyChecked q)) ∧
    ∀ (e : AssetEligibility) (x q : ℚ), (∀ s ∈ e.quantityStep, OnGrid k s) →
      x * 10 ^ k < 10 ^ 26 → e.boundQuantity x = .ok q → q ≠ 0 → ∀ symbol now maxAge policyId,
        eligibilityObjections (some e) symbol now (some q) maxAge policyId =
          eligibilityObjections (some e) symbol now none maxAge policyId := by
  constructor
  · intro i q hi hfraction h hq hstop
    exact entryRiskAllowed_iff hi hfraction h hq hstop
  · intro e x q hstep hx h hq symbol now maxAge policyId
    unfold eligibilityObjections
    simp only [boundQuantity_accepted hstep hx h hq]

/-! ### Sizes of four accounts -/

/-- Ten in the morning in New York. -/
def midMorning : Int → ℕ := fun _ => 10

def roundAccount : Account where
  accountId := "paper"
  cash := 60000
  buyingPower := 60000
  equity := 100000
  currency := "USD"
  nonMarginableBuyingPower := some 60000
  cash_nonneg := by norm_num
  buyingPower_nonneg := by norm_num
  equity_nonneg := (by decide : (100000 : ℚ) ≥ 0)

def boundedConfig : EntryConfig where
  accountId := "paper"
  releaseId := "r1"
  owner := "core"
  generation := 1
  evidenceLane := .brokerPaper
  selectionPolicy := .signalOrExplore
  economicProfile := .resourceBoundedPaper
  capabilities_single := fun h => absurd rfl h

def spotPolicy : EntryPolicy where
  id := "spot"
  contract := .resourceBoundedPaper
  symbols := []
  universeKind := .alpacaAssets
  crypto := some {}
  crypto_amendment := fun _ => ⟨rfl, rfl⟩
  discovery := fun _ => ⟨rfl, rfl⟩

/-- Ten-thousandths of a coin, at least two, seen at the epoch. -/
def coinEligibility : AssetEligibility where
  symbol := "BTC/USD"
  assetClass := .crypto
  entryPolicyId := "spot"
  fractionable := true
  observedAt := some 0
  minimumQuantity := some (2 / 10000)
  quantityStep := some (1 / 10000)
  minimumQuantity_pos := by
    intro m hm
    cases hm
    norm_num
  quantityStep_pos := by
    intro s hs
    cases hs
    norm_num
  crypto_terms := fun _ => ⟨rfl, rfl, rfl⟩
  equity_terms := fun h => by cases h

/-- A coin at 30000, half a percent of the equity, a hundred seconds after the evidence. -/
def coinTerms (at' : Int) : EntryTerms where
  account := roundAccount
  price := 30000
  policy := some spotPolicy
  fractionable := some true
  config := some boundedConfig
  availableNotional := some 400
  eligibility := some coinEligibility
  at' := some at'
  price_pos := by norm_num

theorem coinTerms_representable (at' : Int) : (coinTerms at').Representable 6 where
  tick := le_refl 6
  price := ⟨30000000000, by norm_num [coinTerms]⟩
  equity := ⟨100000000000, by norm_num [coinTerms, roundAccount]⟩
  equity_lt := ⟨⟨100000000000000000, by norm_num [coinTerms, roundAccount]⟩,
    by norm_num [coinTerms, roundAccount]⟩
  cash := ⟨⟨60000000000000000, by norm_num [coinTerms, roundAccount]⟩,
    by norm_num [coinTerms, roundAccount]⟩
  available := by
    intro amount h
    cases h
    exact ⟨⟨400000000000000, by norm_num⟩, by norm_num⟩
  power := by
    intro amount h
    cases h
    exact ⟨⟨60000000000000000, by norm_num⟩, by norm_num⟩
  step := by
    intro e he s hs
    cases he
    cases hs
    exact ⟨100, by norm_num⟩
  capabilityStep := by
    intro c hc
    cases hc

theorem coinTerms_sized : (coinTerms 100000000).entryQuantity midMorning = .ok (133 / 10000) ∧
    (coinTerms 100000000).entryRiskAllowed midMorning (133 / 10000)
      ((coinTerms 100000000).minimumWholeShare (133 / 10000)) = .ok true ∧
    coinEligibility.boundQuantity (1 / 70) = .ok (142 / 10000) := by
  decide +kernel

theorem coinTerms_stop (at' : Int) : (coinTerms at').StopRiskFits midMorning (133 / 10000) := by
  refine ⟨fun config hconfig _ => ?_, fun h => by cases h⟩; cases hconfig
  have hrisk : bpsOf (mul (133 / 10000) 30000) 100 ≤ bpsOf 100000 25 := by decide +kernel
  exact ⟨⟨none, 50, some 9500, 500, 25, 100, some 25, some 200, 1800, none⟩, rfl, hrisk⟩

theorem sizer_gate_agree_coin : (coinTerms 100000000).SeparatelyChecked (133 / 10000) ∧
      eligibilityObjections (some coinEligibility) "BTC/USD" 0 (some (142 / 10000)) 120 none =
        eligibilityObjections (some coinEligibility) "BTC/USD" 0 none 120 none := by
  obtain ⟨hsize, hallowed, hbound⟩ := coinTerms_sized
  refine ⟨((sizer_gate_agree midMorning 6).1 _ _ (coinTerms_representable _) ?_ hsize
    (by norm_num) (coinTerms_stop _)).1 hallowed,
    (sizer_gate_agree midMorning 6).2 coinEligibility (1 / 70) _ ?_ (by norm_num) hbound
      (by norm_num) _ _ _ _⟩
  · intro e he; cases he; rfl
  · intro s hs; cases hs; exact ⟨100, by norm_num⟩

/-- Without a configuration or a policy, as the sizer and the gate are also called. -/
def plainTerms (cash equity price : ℚ) (hcash : 0 ≤ cash) (hequity : 0 ≤ equity)
    (hprice : 0 < price) : EntryTerms where
  account := ⟨"paper", cash, 10000, equity, "USD", none, hcash, by norm_num, hequity⟩
  price := price
  price_pos := hprice

theorem plainTerms_stop {cash equity price : ℚ} (hcash : 0 ≤ cash) (hequity : 0 ≤ equity)
    (hprice : 0 < price) (h : mul (mul q price) (1 / 100) ≤ mul equity (25 / 10000)) :
    (plainTerms cash equity price hcash hequity hprice).StopRiskFits hour q :=
  ⟨fun _ hconfig _ => (nomatch hconfig), fun _ => h⟩

/-- Cash the sizer does not look at, evidence too old, a quantity below the minimum, and an
amount of 29 digits. -/
theorem sizer_gate_disagree :
    (∃ i : EntryTerms, i.entryQuantity midMorning = .ok 5 ∧ i.StopRiskFits midMorning 5 ∧
      i.entryRiskAllowed midMorning 5 (i.minimumWholeShare 5) = .ok false) ∧
    ((coinTerms 121000000).entryQuantity midMorning = .ok (133 / 10000) ∧
      (coinTerms 121000000).StopRiskFits midMorning (133 / 10000) ∧
      (coinTerms 121000000).entryRiskAllowed midMorning (133 / 10000)
        ((coinTerms 121000000).minimumWholeShare (133 / 10000)) = .ok false) ∧
    (coinEligibility.boundQuantity (1 / 10000) = .ok 0 ∧
      quantityObjections coinEligibility 0 = .ok ["ASSET_CRYPTO_MINIMUM_QUANTITY"]) ∧
    ∃ i : EntryTerms, i.entryQuantity midMorning = .ok 2 ∧ i.StopRiskFits midMorning 2 ∧
      i.entryRiskAllowed midMorning 2 (i.minimumWholeShare 2) = .ok false := by
  refine ⟨⟨plainTerms 10 10000 10 (by norm_num) (by norm_num) (by norm_num), by decide +kernel,
    plainTerms_stop _ _ _ (by decide +kernel), by decide +kernel⟩,
    ⟨by decide +kernel, coinTerms_stop _, by decide +kernel⟩, by decide +kernel,
    ⟨plainTerms 9000 (2000 - 6 / 10 ^ 25) (5 - 1 / 10 ^ 27) (by norm_num) (by norm_num)
      (by norm_num), by decide +kernel, plainTerms_stop _ _ _ (by decide +kernel),
      by decide +kernel⟩⟩

end Quantbot.L4.Entry
