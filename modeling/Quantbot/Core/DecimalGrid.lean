import Quantbot.Core.Decimal
import Mathlib.Algebra.Order.Field.Basic
import Mathlib.Algebra.Order.BigOperators.Group.List
import Mathlib.Tactic.Linarith
import Mathlib.Tactic.Positivity
import Mathlib.Tactic.FieldSimp
import Mathlib.Tactic.Ring

/-!
# Where decimal arithmetic is exact

`Fits k x`: `x` is a multiple of `10⁻ᵏ` with at most 27 digits. Such numbers are not
rounded (`round_fits`), sums of them are exact while they fit (`add_exact`,
`foldl_add_exact`), and a quotient is rounded by less than one unit of its dividend:
a multiple of the divisor that is at most the rounded quotient times the divisor is at
most the dividend (`mul_le_of_le_div`). One digit of the 28 is spent on that last fact:
with all 28 it is false.
-/
namespace Quantbot.Core.Decimal

/-! ## The rounding error -/

theorem nearestEven_intCast (n : ℤ) : nearestEven n = n := by
  unfold nearestEven; simp

theorem nearestEven_le (x : ℚ) : (nearestEven x : ℚ) ≤ x + 1 := by
  have hfloor := Int.floor_le x; unfold nearestEven; simp only; split
  · linarith
  split
  · push_cast; linarith
  · split
    · linarith
    · push_cast; linarith

theorem le_nearestEven (x : ℚ) : x - 1 ≤ (nearestEven x : ℚ) := by
  have hfloor := Int.lt_floor_add_one x; unfold nearestEven; simp only; split
  · linarith
  split
  · push_cast; linarith
  · split
    · linarith
    · push_cast; linarith

/-- The unit in the last place of a positive number. -/
def unit (x : ℚ) : ℚ := 10 ^ (Int.log 10 x + 1 - precision)

theorem unit_pos (x : ℚ) : 0 < unit x := by
  exact zpow_pos (by norm_num) _

variable {x y : ℚ}

/-- The unit is at most a part in `10²⁷`. -/
theorem unit_le (hx : 0 < x) : unit x ≤ x / 10 ^ 27 := by
  have hlog := Int.zpow_log_le_self (b := 10) (r := x) (by norm_num) hx
  rw [le_div_iff₀ (by positivity)]
  calc unit x * 10 ^ 27
      = (10 : ℚ) ^ (Int.log 10 x + 1 - 28 + 27) := by
        unfold unit precision; rw [zpow_add₀ (by norm_num)]; norm_num
    _ = (10 : ℚ) ^ (Int.log 10 x) := by
        congr 1; omega
    _ ≤ x := by exact_mod_cast hlog

/-- A result is at most one part in `10²⁷` above the exact value. -/
theorem round_le (hx : 0 ≤ x) : round x ≤ x + x / 10 ^ 27 := by
  rcases hx.eq_or_lt with rfl | hpos
  · simp
  have hunit := unit_le hpos; unfold round
  rw [if_neg hpos.ne', if_neg (not_lt.2 hpos.le)]
  calc (nearestEven (x / unit x) : ℚ) * unit x
      ≤ (x / unit x + 1) * unit x :=
        mul_le_mul_of_nonneg_right (nearestEven_le _) (unit_pos x).le
    _ = x + unit x := by
        rw [add_mul, div_mul_cancel₀ _ (unit_pos x).ne', one_mul]
    _ ≤ x + x / 10 ^ 27 := by linarith

/-- A result is at most one part in `10²⁷` below the exact value. -/
theorem le_round (hx : 0 ≤ x) : x - x / 10 ^ 27 ≤ round x := by
  rcases hx.eq_or_lt with rfl | hpos
  · simp
  have hunit := unit_le hpos; unfold round
  rw [if_neg hpos.ne', if_neg (not_lt.2 hpos.le)]
  calc x - x / 10 ^ 27
      ≤ x - unit x := by linarith
    _ = (x / unit x - 1) * unit x := by
        rw [sub_mul, div_mul_cancel₀ _ (unit_pos x).ne', one_mul]
    _ ≤ (nearestEven (x / unit x) : ℚ) * unit x :=
        mul_le_mul_of_nonneg_right (le_nearestEven _) (unit_pos x).le

theorem round_nonneg (hx : 0 ≤ x) : 0 ≤ round x := by
  rcases hx.eq_or_lt with rfl | hpos
  · simp
  unfold round; rw [if_neg hpos.ne', if_neg (not_lt.2 hpos.le)]
  show 0 ≤ (nearestEven (x / unit x) : ℚ) * unit x
  have hone : 1 ≤ x / unit x := by
    rw [le_div_iff₀ (unit_pos x), one_mul]; have := unit_le hpos; linarith
  have := le_nearestEven (x / unit x)
  exact mul_nonneg (by linarith) (unit_pos x).le

/-! ## The grid -/

/-- A multiple of `10⁻ᵏ`. -/
def OnGrid (k : ℕ) (x : ℚ) : Prop := ∃ n : ℤ, x = n / 10 ^ k

variable {k : ℕ}

theorem OnGrid.add (hx : OnGrid k x) (hy : OnGrid k y) : OnGrid k (x + y) := by
  obtain ⟨n, rfl⟩ := hx; obtain ⟨m, rfl⟩ := hy
  exact ⟨n + m, by push_cast; rw [add_div]⟩

theorem OnGrid.neg (hx : OnGrid k x) : OnGrid k (-x) := by
  obtain ⟨n, rfl⟩ := hx; exact ⟨-n, by push_cast; rw [neg_div]⟩

theorem OnGrid.sub (hx : OnGrid k x) (hy : OnGrid k y) : OnGrid k (x - y) := by
  rw [sub_eq_add_neg]; exact hx.add hy.neg

theorem OnGrid.mul {j : ℕ} (hx : OnGrid j x) (hy : OnGrid k y) : OnGrid (j + k) (x * y) := by
  obtain ⟨n, rfl⟩ := hx; obtain ⟨m, rfl⟩ := hy
  exact ⟨n * m, by push_cast; rw [pow_add, div_mul_div_comm]⟩

theorem OnGrid.zero (k : ℕ) : OnGrid k 0 := ⟨0, by simp⟩

theorem OnGrid.sum {l : List ℚ} (h : ∀ x ∈ l, OnGrid k x) : OnGrid k l.sum := by
  induction l with
  | nil => exact .zero k
  | cons x l ih =>
    exact (h x List.mem_cons_self).add (ih fun y hy => h y (List.mem_cons_of_mem _ hy))

theorem OnGrid.le_of_lt (hx : OnGrid k x) (hy : OnGrid k y) (h : x < y + 1 / 10 ^ k) : x ≤ y := by
  obtain ⟨n, rfl⟩ := hx; obtain ⟨m, rfl⟩ := hy
  have hpow : (0 : ℚ) < 10 ^ k := by positivity
  rw [← add_div, div_lt_div_iff_of_pos_right hpow] at h
  have hnm : n < m + 1 := by exact_mod_cast h
  rw [div_le_div_iff_of_pos_right hpow]; exact_mod_cast Int.lt_add_one_iff.1 hnm

/-- A multiple of `10⁻ᵏ` with at most 27 digits. -/
def Fits (k : ℕ) (x : ℚ) : Prop := OnGrid k x ∧ |x| * 10 ^ k < 10 ^ 27

theorem Fits.of_le (hx : OnGrid k x) (hy : Fits k y) (h0 : 0 ≤ x) (h : x ≤ y) : Fits k x := by
  refine ⟨hx, lt_of_le_of_lt ?_ hy.2⟩
  rw [abs_of_nonneg h0, abs_of_nonneg (h0.trans h)]
  exact mul_le_mul_of_nonneg_right h (by positivity)

theorem round_fits_pos (hpos : 0 < x) (hgrid : OnGrid k x) (h : x * 10 ^ k < 10 ^ 28) :
    round x = x := by
  obtain ⟨n, hn⟩ := hgrid; have hpow : (0 : ℚ) < 10 ^ k := by positivity
  -- the number has at most 28 digits left of the grid, so its unit is at most a grid step
  have hlog : Int.log 10 x + 1 - 28 ≤ -(k : ℤ) := by
    have hle := Int.zpow_log_le_self (b := 10) (r := x) (by norm_num) hpos
    have hlt : (10 : ℚ) ^ Int.log 10 x < (10 : ℚ) ^ (28 - (k : ℤ)) := by
      calc (10 : ℚ) ^ Int.log 10 x ≤ x := by exact_mod_cast hle
        _ < 10 ^ 28 / 10 ^ k := by rwa [lt_div_iff₀ hpow]
        _ = (10 : ℚ) ^ (28 - (k : ℤ)) := by
          rw [zpow_sub₀ (by norm_num), zpow_natCast]; norm_num
    have := (zpow_lt_zpow_iff_right₀ (by norm_num : (1 : ℚ) < 10)).1 hlt; omega
  obtain ⟨j, hj⟩ : ∃ j : ℕ, Int.log 10 x + 1 - precision = -(k : ℤ) - j := by
    refine ⟨(-(k : ℤ) - (Int.log 10 x + 1 - 28)).toNat, ?_⟩; unfold precision
    omega
  have hunit : unit x = 1 / (10 ^ k * 10 ^ j) := by
    unfold unit
    rw [hj, zpow_sub₀ (by norm_num), zpow_neg, zpow_natCast, zpow_natCast, one_div, mul_inv,
      div_eq_mul_inv]
  have hquot : x / unit x = ((n * 10 ^ j : ℤ) : ℚ) := by
    rw [hunit, hn]; push_cast; field_simp
  unfold round; rw [if_neg hpos.ne', if_neg (not_lt.2 hpos.le)]
  show (nearestEven (x / unit x) : ℚ) * unit x = x
  rw [hquot, nearestEven_intCast, ← hquot, div_mul_cancel₀ _ (unit_pos x).ne']

theorem round_grid (hgrid : OnGrid k x) (h : |x| * 10 ^ k < 10 ^ 28) : round x = x := by
  rcases lt_trichotomy x 0 with hneg | rfl | hpos
  · have hround : round (-x) = -x := by
      refine round_fits_pos (neg_pos.2 hneg) hgrid.neg ?_
      rwa [← abs_of_neg hneg]
    rw [round_neg] at hround; exact neg_injective hround
  · exact round_zero
  · exact round_fits_pos hpos hgrid (by rwa [← abs_of_pos hpos])

theorem round_fits (h : Fits k x) : round x = x :=
  round_grid h.1 (h.2.trans (by norm_num))

theorem add_exact (hx : Fits k x) (hy : Fits k y) : add x y = x + y := by
  refine round_grid (hx.1.add hy.1) ?_
  calc |x + y| * 10 ^ k ≤ (|x| + |y|) * 10 ^ k :=
        mul_le_mul_of_nonneg_right (abs_add_le x y) (by positivity)
    _ = |x| * 10 ^ k + |y| * 10 ^ k := add_mul ..
    _ < 10 ^ 28 := by
      have := hx.2; have := hy.2; linarith

theorem Fits.neg (hx : Fits k x) : Fits k (-x) :=
  ⟨hx.1.neg, by rw [abs_neg]; exact hx.2⟩

theorem sub_exact (hx : Fits k x) (hy : Fits k y) : sub x y = x - y := by
  have h := add_exact hx hy.neg; rw [← sub_eq_add_neg] at h; rw [← h]
  unfold sub add; rw [sub_eq_add_neg]

theorem foldl_add_exact {l : List ℚ} {a : ℚ} (ha : 0 ≤ a) (hgrid : OnGrid k a)
    (hl : ∀ x ∈ l, 0 ≤ x ∧ OnGrid k x) (h : Fits k (a + l.sum)) : l.foldl add a = a + l.sum := by
  induction l generalizing a with
  | nil => simp
  | cons x l ih =>
    obtain ⟨hx, hxgrid⟩ := hl x List.mem_cons_self
    have hrest : ∀ y ∈ l, 0 ≤ y ∧ OnGrid k y := fun y hy => hl y (List.mem_cons_of_mem _ hy)
    have hsum : 0 ≤ l.sum := List.sum_nonneg fun y hy => (hrest y hy).1
    rw [List.sum_cons] at h ⊢
    have hfirst : add a x = a + x := by
      refine round_fits (Fits.of_le (hgrid.add hxgrid) h (add_nonneg ha hx) ?_)
      linarith
    rw [List.foldl_cons, hfirst, ih (add_nonneg ha hx) (hgrid.add hxgrid) hrest]
    · ring
    · rw [add_assoc]; exact h

/-- A quantity bounded by a rounded quotient times the divisor is bounded by the dividend,
when both are on one grid and the dividend has at most 27 digits. -/
theorem mul_le_of_le_div {q p r : ℚ} (hp : 0 < p) (hr : 0 ≤ r) (hq : q ≤ div r p)
    (hgrid : OnGrid k (q * p)) (hfits : Fits k r) : q * p ≤ r := by
  refine OnGrid.le_of_lt hgrid hfits.1 ?_
  have hpow : (0 : ℚ) < 10 ^ k := by positivity
  have hbound : r / 10 ^ 27 < 1 / 10 ^ k := by
    rw [div_lt_div_iff₀ (by positivity) hpow, one_mul]; have := hfits.2
    rwa [abs_of_nonneg hr] at this
  calc q * p ≤ div r p * p := mul_le_mul_of_nonneg_right hq hp.le
    _ ≤ (r / p + r / p / 10 ^ 27) * p :=
      mul_le_mul_of_nonneg_right (round_le (div_nonneg hr hp.le)) hp.le
    _ = r + r / 10 ^ 27 := by field_simp
    _ < r + 1 / 10 ^ k := by linarith

end Quantbot.Core.Decimal
