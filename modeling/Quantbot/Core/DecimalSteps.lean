import Quantbot.Core.DecimalGrid

/-!
# Rounding down to a step

`truncate` is `to_integral_value(rounding="ROUND_DOWN")`, `quantizeDown` a `quantize` toward
zero and `remainder` the `%` of decimals; `stepDown` is a number rounded down to a multiple
of a step, as quantities are.

A quantity that was rounded down from a quotient of an amount by a price costs the amount up
to three parts in `10²⁷` (`near_of_quantized`, `near_of_stepDown`), and no more than the
amount where that has 26 digits on a grid the cost is on (`Near.le`): two of the 28 digits
pay for the two rounded divisions.
-/
namespace Quantbot.Core.Decimal

/-- `x.to_integral_value(rounding="ROUND_DOWN")`. -/
def truncate (x : ℚ) : ℤ := if 0 ≤ x then ⌊x⌋ else ⌈x⌉

/-- `x.quantize(Decimal("1e-places"), rounding="ROUND_DOWN")`; a result of more digits than
the context has is an invalid operation. -/
def quantizeDown (places : ℕ) (x : ℚ) : Option ℚ :=
  let n := truncate (x * 10 ^ places)
  if n.natAbs < 10 ^ precision then some (n / 10 ^ places) else none

/-- `x % y`; an integer quotient of more digits than the context has is an invalid
operation. -/
def remainder (x y : ℚ) : Option ℚ :=
  let n := truncate (x / y)
  if n.natAbs < 10 ^ precision then some (round (x - n * y)) else none

/-- `(x / step).to_integral_value(rounding="ROUND_DOWN") * step`. -/
def stepDown (x step : ℚ) : ℚ := mul (truncate (div x step)) step

/-! ## Truncation -/

variable {p q r s x y : ℚ}

theorem truncate_le (hx : 0 ≤ x) : (truncate x : ℚ) ≤ x := by
  unfold truncate; rw [if_pos hx]; exact Int.floor_le x

theorem truncate_nonpos (hx : x ≤ 0) : truncate x ≤ 0 := by
  unfold truncate; split
  · rename_i h; rw [le_antisymm hx h, Int.floor_zero]
  · exact Int.ceil_le.2 (by exact_mod_cast hx)

@[simp] theorem truncate_intCast (n : ℤ) : truncate n = n := by
  unfold truncate; split
  · exact Int.floor_intCast n
  · exact Int.ceil_intCast n

theorem pos_of_truncate_pos (h : 0 < truncate x) : 0 < x := by
  by_contra hx; exact absurd h (not_lt.2 (truncate_nonpos (not_lt.1 hx)))

/-! ## Grids -/

/-- A multiple of `10⁻ᵏ` with at most 26 digits. -/
def Roomy (k : ℕ) (x : ℚ) : Prop := OnGrid k x ∧ |x| * 10 ^ k < 10 ^ 26

variable {j k places : ℕ}

theorem OnGrid.mono (hx : OnGrid j x) (h : j ≤ k) : OnGrid k x := by
  obtain ⟨n, rfl⟩ := hx; refine ⟨n * 10 ^ (k - j), ?_⟩
  rw [div_eq_div_iff (by positivity) (by positivity)]; push_cast
  rw [mul_assoc, ← pow_add, Nat.sub_add_cancel h]

theorem OnGrid.intCast (k : ℕ) (n : ℤ) : OnGrid k n := OnGrid.mono ⟨n, by simp⟩ (Nat.zero_le k)

theorem OnGrid.divPow (hx : OnGrid k x) (j : ℕ) : OnGrid (k + j) (x / 10 ^ j) := by
  obtain ⟨n, rfl⟩ := hx; exact ⟨n, by rw [pow_add, div_div]⟩

theorem Roomy.fits (hx : Roomy k x) : Fits k x :=
  ⟨hx.1, hx.2.trans (by norm_num)⟩

theorem Roomy.of_le (hx : OnGrid k x) (hy : Roomy k y) (h0 : 0 ≤ x) (h : x ≤ y) : Roomy k x := by
  refine ⟨hx, lt_of_le_of_lt ?_ hy.2⟩
  rw [abs_of_nonneg h0, abs_of_nonneg (h0.trans h)]
  exact mul_le_mul_of_nonneg_right h (by positivity)

theorem Roomy.lt (h : Roomy k x) : x * 10 ^ k < 10 ^ 26 :=
  lt_of_le_of_lt (mul_le_mul_of_nonneg_right (le_abs_self x) (by positivity)) h.2

theorem Roomy.zero (k : ℕ) : Roomy k 0 := ⟨.zero k, by simp⟩

theorem Roomy.min (hx : Roomy k x) (hy : Roomy k y) : Roomy k (min x y) := by
  rcases min_choice x y with h | h <;> rw [h] <;> assumption

theorem Roomy.max (hx : Roomy k x) (hy : Roomy k y) : Roomy k (max x y) := by
  rcases max_choice x y with h | h <;> rw [h] <;> assumption

theorem mul_exact (hgrid : OnGrid k (x * y)) (h : |x * y| * 10 ^ k < 10 ^ 28) : mul x y = x * y :=
  round_grid hgrid h

theorem div_exact (hgrid : OnGrid k (x / y)) (h : |x / y| * 10 ^ k < 10 ^ 28) : div x y = x / y :=
  round_grid hgrid h

/-! ## Rounded down quantities -/

section

variable (h : quantizeDown places x = some q)
include h

theorem quantizeDown_some : q = truncate (x * 10 ^ places) / 10 ^ places := by
  unfold quantizeDown at h; simp only at h; split at h
  · exact (Option.some.inj h).symm
  · cases h

theorem quantizeDown_grid : OnGrid places q :=
  ⟨_, quantizeDown_some h⟩

theorem quantizeDown_le (hq : 0 < q) : q ≤ x := by
  have hpow : (0 : ℚ) < 10 ^ places := by positivity
  rw [quantizeDown_some h] at hq ⊢
  have hpos : (0 : ℚ) < truncate (x * 10 ^ places) := by
    rwa [div_pos_iff_of_pos_right hpow] at hq
  rw [div_le_iff₀ hpow]
  exact truncate_le (pos_of_truncate_pos (by exact_mod_cast hpos)).le

end

theorem pos_of_div_pos (hp : 0 < p) (h : 0 < div r p) : 0 < r := by
  by_contra hr
  have hneg : 0 ≤ -(r / p) := neg_nonneg.2 (div_nonpos_of_nonpos_of_nonneg (not_lt.1 hr) hp.le)
  have hround := round_nonneg hneg; rw [round_neg] at hround
  exact absurd h (not_lt.2 (neg_nonneg.1 hround))

/-- `x` is at most `r`, up to three parts in `10²⁷`. -/
def Near (x r : ℚ) : Prop := x ≤ r + 3 * r / 10 ^ 27

theorem near_of_quantized (hp : 0 < p) (hq : 0 < q) (h : quantizeDown places (div r p) = some q) :
    0 < r ∧ Near (q * p) r := by
  have hle := quantizeDown_le h hq
  have hpos := pos_of_div_pos hp (hq.trans_le hle); refine ⟨hpos, ?_⟩
  have hround : div r p ≤ r / p + r / p / 10 ^ 27 := round_le (div_nonneg hpos.le hp.le)
  calc q * p ≤ (r / p + r / p / 10 ^ 27) * p :=
        mul_le_mul_of_nonneg_right (hle.trans hround) hp.le
    _ = r + r / 10 ^ 27 := by field_simp
    _ ≤ r + 3 * r / 10 ^ 27 := by
        linarith

theorem near_of_mul_le (h0 : 0 ≤ x * y) (h : mul x y ≤ r) : Near (x * y) r := by
  have hround : x * y - x * y / 10 ^ 27 ≤ r := (le_round h0).trans h
  unfold Near; linarith

/-- Two quotients round by less than three parts in `10²⁷`. -/
theorem near_of_le_div_div {n : ℚ} (hp : 0 < p) (hs : 0 < s) (hr : 0 ≤ r)
    (hn : n ≤ div (div r p) s) : Near (n * s * p) r := by
  have hfirst : div r p ≤ r / p + r / p / 10 ^ 27 := round_le (div_nonneg hr hp.le)
  have hsecond : div (div r p) s ≤ div r p / s + div r p / s / 10 ^ 27 :=
    round_le (div_nonneg (round_nonneg (div_nonneg hr hp.le)) hs.le)
  calc n * s * p
      ≤ (div r p / s + div r p / s / 10 ^ 27) * s * p :=
        mul_le_mul_of_nonneg_right
          (mul_le_mul_of_nonneg_right (hn.trans hsecond) hs.le) hp.le
    _ = div r p * (1 + 1 / 10 ^ 27) * p := by field_simp
    _ ≤ (r / p + r / p / 10 ^ 27) * (1 + 1 / 10 ^ 27) * p :=
        mul_le_mul_of_nonneg_right
          (mul_le_mul_of_nonneg_right hfirst (by positivity)) hp.le
    _ = r + 2 * r / 10 ^ 27 + r / 10 ^ 27 / 10 ^ 27 := by field_simp; ring
    _ ≤ r + 3 * r / 10 ^ 27 := by
        linarith

/-- **Near is within** on a grid on which the amount has 26 digits. -/
theorem Near.le {a : ℚ} (h : Near x a) (ha : a ≤ r) (hr0 : 0 ≤ r) (hx : OnGrid k x)
    (hr : Roomy k r) : x ≤ r := by
  refine OnGrid.le_of_lt hx hr.1 ?_
  have hpow : (0 : ℚ) < 10 ^ k := by positivity
  have hbound : 3 * r / 10 ^ 27 < 1 / 10 ^ k := by
    rw [div_lt_div_iff₀ (by positivity) hpow, one_mul]; have := hr.2
    rw [abs_of_nonneg hr0] at this; linarith
  have hstep : a + 3 * a / 10 ^ 27 ≤ r + 3 * r / 10 ^ 27 := by gcongr
  exact (h.trans hstep).trans_lt (by linarith)

theorem Near.mul_exact (h : Near (x * y) r) (h0 : 0 ≤ x * y) (hgrid : OnGrid k (x * y))
    (hr : r * 10 ^ k < 10 ^ 26) : mul x y = x * y := by
  have hpow : (0 : ℚ) < 10 ^ k := by positivity
  refine Decimal.mul_exact hgrid ?_; rw [abs_of_nonneg h0]
  calc x * y * 10 ^ k ≤ (r + 3 * r / 10 ^ 27) * 10 ^ k := mul_le_mul_of_nonneg_right h hpow.le
    _ = r * 10 ^ k + 3 * (r * 10 ^ k) / 10 ^ 27 := by ring
    _ < 10 ^ 28 := by linarith

/-! ## Steps -/

theorem OnGrid.one_le (hx : OnGrid k x) (hpos : 0 < x) : 1 ≤ x * 10 ^ k := by
  obtain ⟨n, rfl⟩ := hx; have hpow : (0 : ℚ) < 10 ^ k := by positivity
  rw [div_mul_cancel₀ _ hpow.ne']
  have hn : 0 < n := by
    rw [div_pos_iff_of_pos_right hpow] at hpos; exact_mod_cast hpos
  exact_mod_cast hn

theorem pos_of_mul_pos (hy : 0 < y) (h : 0 < mul x y) : 0 < x := by
  by_contra hx
  have hneg : 0 ≤ -(x * y) := neg_nonneg.2 (mul_nonpos_of_nonpos_of_nonneg (not_lt.1 hx) hy.le)
  have hround := round_nonneg hneg; rw [round_neg] at hround
  exact absurd h (not_lt.2 (neg_nonneg.1 hround))

/-- A number rounded down to a step of the grid is a multiple of the step, not rounded again. -/
theorem stepDown_multiple (hs : 0 < s) (hgrid : OnGrid j s) (hx : x * 10 ^ j < 10 ^ 27)
    (hq : 0 < stepDown x s) :
    ∃ n : ℤ, 0 < n ∧ stepDown x s = n * s ∧ (n : ℚ) ≤ div x s ∧ n.natAbs < 10 ^ precision := by
  set n := truncate (div x s) with hn
  have hnpos : 0 < n := by exact_mod_cast pos_of_mul_pos hs hq
  have hle : (n : ℚ) ≤ div x s := truncate_le (pos_of_truncate_pos hnpos).le
  have hxpos : 0 < x := pos_of_div_pos hs (pos_of_truncate_pos hnpos)
  have hround : div x s ≤ x / s + x / s / 10 ^ 27 := round_le (div_nonneg hxpos.le hs.le)
  have hns : n * s ≤ x + x / 10 ^ 27 :=
    calc (n : ℚ) * s ≤ (x / s + x / s / 10 ^ 27) * s :=
          mul_le_mul_of_nonneg_right (hle.trans hround) hs.le
      _ = x + x / 10 ^ 27 := by field_simp
  have hpow : (0 : ℚ) < 10 ^ j := by positivity
  have hsize : n * s * 10 ^ j < 10 ^ 28 :=
    calc (n : ℚ) * s * 10 ^ j ≤ (x + x / 10 ^ 27) * 10 ^ j :=
          mul_le_mul_of_nonneg_right hns hpow.le
      _ = x * 10 ^ j + x * 10 ^ j / 10 ^ 27 := by ring
      _ < 10 ^ 28 := by linarith
  have hnq : (0 : ℚ) < n := by exact_mod_cast hnpos
  have hsmall : (n : ℚ) < 10 ^ 28 :=
    calc (n : ℚ) = n * 1 := (mul_one _).symm
      _ ≤ n * (s * 10 ^ j) := mul_le_mul_of_nonneg_left (hgrid.one_le hs) hnq.le
      _ = n * s * 10 ^ j := by ring
      _ < 10 ^ 28 := hsize
  have hexact : mul n s = n * s := by
    have hprod := (OnGrid.intCast 0 n).mul hgrid; rw [Nat.zero_add] at hprod
    exact mul_exact hprod (by rwa [abs_of_nonneg (mul_nonneg hnq.le hs.le)])
  have hcast : n < 10 ^ 28 := by exact_mod_cast hsmall
  refine ⟨n, hnpos, hexact, hle, ?_⟩; unfold precision; omega

theorem remainder_multiple {n : ℤ} (hs : 0 < s) (hn : n.natAbs < 10 ^ precision) :
    remainder (n * s) s = some 0 := by
  unfold remainder
  simp only [mul_div_cancel_right₀ _ hs.ne', truncate_intCast, if_pos hn, sub_self, round_zero]

theorem near_of_stepDown (hp : 0 < p) (hs : 0 < s) (hsgrid : OnGrid j s) (hpgrid : OnGrid k p)
    (hr : r * 10 ^ (j + k) < 10 ^ 26) (hq : 0 < stepDown (div r p) s) :
    ∃ n : ℤ, 0 < n ∧ n.natAbs < 10 ^ precision ∧ stepDown (div r p) s = n * s ∧ 0 < r ∧
      Near (n * s * p) r := by
  have hxpos : 0 < div r p :=
    pos_of_div_pos hs (pos_of_truncate_pos (by exact_mod_cast pos_of_mul_pos hs hq))
  have hrpos : 0 < r := pos_of_div_pos hp hxpos
  have hx : div r p * 10 ^ j < 10 ^ 27 := by
    have hj : (0 : ℚ) < 10 ^ j := by positivity
    have hround : div r p ≤ r / p + r / p / 10 ^ 27 := round_le (div_nonneg hrpos.le hp.le)
    have hquot : r / p ≤ r * 10 ^ k := by
      rw [div_le_iff₀ hp]
      calc r = r * 1 := (mul_one r).symm
        _ ≤ r * (p * 10 ^ k) := mul_le_mul_of_nonneg_left (hpgrid.one_le hp) hrpos.le
        _ = r * 10 ^ k * p := by ring
    have hsize : r * 10 ^ k * 10 ^ j < 10 ^ 26 := by
      rw [pow_add] at hr
      calc r * 10 ^ k * 10 ^ j = r * (10 ^ j * 10 ^ k) := by ring
        _ < 10 ^ 26 := hr
    calc div r p * 10 ^ j
        ≤ (r / p + r / p / 10 ^ 27) * 10 ^ j := mul_le_mul_of_nonneg_right hround hj.le
      _ ≤ (r * 10 ^ k + r * 10 ^ k / 10 ^ 27) * 10 ^ j := by gcongr
      _ = r * 10 ^ k * 10 ^ j + r * 10 ^ k * 10 ^ j / 10 ^ 27 := by ring
      _ < 10 ^ 27 := by linarith
  obtain ⟨n, hn, heq, hle, hdigits⟩ := stepDown_multiple hs hsgrid hx hq
  exact ⟨n, hn, hdigits, heq, hrpos, near_of_le_div_div hp hs hrpos.le hle⟩

end Quantbot.Core.Decimal
