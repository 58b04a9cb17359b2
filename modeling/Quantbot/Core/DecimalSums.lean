import Quantbot.Core.Arith
import Quantbot.Core.DecimalGrid

/-!
# Sums and shares of decimals

What a decimal calculation is off by: a sum of numbers on one grid by nothing, while their
magnitudes together have 27 digits on it (`sum_exact`); a share `f · n / q` by three parts in
`10²⁷` (`abs_share_sub_le`); a number with a share added to it by one part more
(`abs_add_share_sub_le`).
-/
namespace Quantbot.Core.Decimal

/-! ## Sums -/

section Sums

variable {k : ℕ} {l : List ℚ} {a : ℚ}

theorem foldl_add_eq (ha : OnGrid k a) (hl : ∀ x ∈ l, OnGrid k x)
    (h : (|a| + (l.map abs).sum) * 10 ^ k < 10 ^ 27) : l.foldl add a = a + l.sum := by
  induction l generalizing a with
  | nil => exact (add_zero a).symm
  | cons x l ih =>
    rw [List.map_cons, List.sum_cons] at h; have hx := hl x List.mem_cons_self
    have hrest : 0 ≤ (l.map abs).sum := List.sum_nonneg fun y hy => by
      obtain ⟨z, _, rfl⟩ := List.mem_map.1 hy; exact abs_nonneg z
    have hpow : (0 : ℚ) < 10 ^ k := by positivity
    have habs : |a + x| ≤ |a| + |x| := abs_add_le a x
    have hsum : (|a + x| + (l.map abs).sum) * 10 ^ k < 10 ^ 27 :=
      lt_of_le_of_lt (mul_le_mul_of_nonneg_right (by linarith) hpow.le) h
    have hfirst : add a x = a + x := by
      refine round_fits ⟨ha.add hx, lt_of_le_of_lt ?_ hsum⟩
      exact mul_le_mul_of_nonneg_right (by linarith) hpow.le
    rw [List.foldl_cons, hfirst, ih (ha.add hx) (fun y hy => hl y (List.mem_cons_of_mem x hy)) hsum,
      List.sum_cons, add_assoc]

/-- **A sum on a grid loses nothing** while its magnitudes together have 27 digits. -/
theorem sum_exact (hl : ∀ x ∈ l, OnGrid k x) (h : (l.map abs).sum * 10 ^ k < 10 ^ 27) :
    Arith.decimal.sum l = l.sum := by
  have hzero : (|0| + (l.map abs).sum) * 10 ^ k < 10 ^ 27 := by
    rw [abs_zero, zero_add]; exact h
  exact (foldl_add_eq (.zero k) hl hzero).trans (zero_add _)

end Sums

/-! ## Errors -/

section Errors

/-- A result is off by at most one part in `10²⁷`. -/
theorem abs_round_sub_le (x : ℚ) : |round x - x| ≤ |x| / 10 ^ 27 := by
  have hpos : ∀ {y : ℚ}, 0 ≤ y → |round y - y| ≤ y / 10 ^ 27 := by
    intro y hy; have hle := round_le hy; have hge := le_round hy
    exact abs_le.2 ⟨by linarith, by linarith⟩
  rcases le_total 0 x with hx | hx
  · rw [abs_of_nonneg hx]; exact hpos hx
  · have hneg := hpos (neg_nonneg.2 hx)
    rw [round_neg, ← neg_add', abs_neg, ← sub_eq_add_neg] at hneg
    rw [abs_of_nonpos hx]; exact hneg

variable (f n q c : ℚ)

theorem abs_share_sub_le : |mul f (div n q) - f * (n / q)| ≤ 3 * |f * (n / q)| / 10 ^ 27 := by
  have hdiv : |f * div n q - f * (n / q)| ≤ |f * (n / q)| / 10 ^ 27 := by
    rw [← mul_sub, abs_mul, abs_mul, mul_div_assoc]
    exact mul_le_mul_of_nonneg_left (abs_round_sub_le (n / q)) (abs_nonneg f)
  have hmul : |mul f (div n q) - f * div n q| ≤ |f * div n q| / 10 ^ 27 := abs_round_sub_le _
  have hsize : |f * div n q| ≤ |f * (n / q)| + |f * div n q - f * (n / q)| := by
    have := abs_add_le (f * (n / q)) (f * div n q - f * (n / q))
    rwa [add_sub_cancel] at this
  have htriangle := abs_sub_le (mul f (div n q)) (f * div n q) (f * (n / q))
  have hnonneg := abs_nonneg (f * (n / q)); linarith

/-- A number with a share added is off by at most four parts of the share and one of itself. -/
theorem abs_add_share_sub_le :
    |add c (mul f (div n q)) - (c + f * (n / q))| ≤
      (4 * |f * (n / q)| + |c + f * (n / q)|) / 10 ^ 27 := by
  have hshare := abs_share_sub_le f n q
  have hadd : |add c (mul f (div n q)) - (c + mul f (div n q))| ≤
      |c + mul f (div n q)| / 10 ^ 27 := abs_round_sub_le _
  have hsize : |c + mul f (div n q)| ≤
      |c + f * (n / q)| + |mul f (div n q) - f * (n / q)| := by
    have := abs_add_le (c + f * (n / q)) (mul f (div n q) - f * (n / q))
    rwa [add_add_sub_cancel] at this
  have hcancel : c + mul f (div n q) - (c + f * (n / q)) = mul f (div n q) - f * (n / q) :=
    add_sub_add_left_eq_sub _ _ _
  have htriangle := abs_sub_le (add c (mul f (div n q))) (c + mul f (div n q)) (c + f * (n / q))
  rw [hcancel] at htriangle; have hnonneg := abs_nonneg (f * (n / q)); linarith

end Errors

end Quantbot.Core.Decimal
