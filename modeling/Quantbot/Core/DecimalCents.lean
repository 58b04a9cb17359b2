import Quantbot.Core.DecimalGrid

/-!
# Quantizing to a number of places

`x.quantize(Decimal("1e-places"), rounding=ROUND_HALF_EVEN)`: the nearest multiple, which the
context must have the digits for.

`Sized k B x` says that `x` is a multiple of `10⁻ᵏ` no greater than `B` in magnitude. Bounds
add as the numbers do, so a calculation whose bound stays below 28 digits is not rounded
(`Sized.round`).
-/
namespace Quantbot.Core.Decimal

/-! ## Quantizing -/

/-- The nearest multiple of `10^-places`, of two the even one. -/
def nearest (places : ℕ) (x : ℚ) : ℚ := nearestEven (x * 10 ^ places) / 10 ^ places

/-- `x.quantize(Decimal("1e-places"), rounding=ROUND_HALF_EVEN)`; a result of more digits than
the context has is an invalid operation. -/
def quantizeEven (places : ℕ) (x : ℚ) : Option ℚ :=
  if (nearestEven (x * 10 ^ places)).natAbs < 10 ^ precision then some (nearest places x) else none

theorem quantizeEven_some {places : ℕ} {x q : ℚ} (h : quantizeEven places x = some q) :
    q = nearest places x := by
  unfold quantizeEven at h; split at h
  · exact (Option.some.inj h).symm
  · cases h

theorem nearest_grid (places : ℕ) (x : ℚ) : OnGrid places (nearest places x) := ⟨_, rfl⟩

theorem abs_nearest_sub_le (places : ℕ) (x : ℚ) : |nearest places x - x| ≤ 1 := by
  have hpow : (1 : ℚ) ≤ 10 ^ places := one_le_pow₀ (by norm_num)
  have hpos : (0 : ℚ) < 10 ^ places := by positivity
  have hle := nearestEven_le (x * 10 ^ places)
  have hge := le_nearestEven (x * 10 ^ places)
  have hdiff : nearest places x - x =
      (nearestEven (x * 10 ^ places) - x * 10 ^ places) / 10 ^ places := by
    unfold nearest; rw [sub_div, mul_div_cancel_right₀ x hpos.ne']
  rw [hdiff, abs_div, abs_of_pos hpos, div_le_one hpos]
  refine le_trans (abs_le.2 ⟨?_, ?_⟩) hpow
  · linarith
  · linarith

/-! ## Sizes -/

/-- A multiple of `10⁻ᵏ` of magnitude at most `B`. -/
def Sized (k : ℕ) (B x : ℚ) : Prop := OnGrid k x ∧ |x| ≤ B

namespace Sized

variable {k : ℕ} {B C x y : ℚ}

theorem mono (h : Sized k B x) (hBC : B ≤ C) : Sized k C x := ⟨h.1, h.2.trans hBC⟩

theorem nonneg (h : Sized k B x) : 0 ≤ B := (abs_nonneg x).trans h.2

theorem zero (k : ℕ) : Sized k 0 0 := ⟨.zero k, by rw [abs_zero]⟩

theorem self (h : OnGrid k x) : Sized k |x| x := ⟨h, le_refl _⟩

theorem of_nonneg (h : OnGrid k x) (h0 : 0 ≤ x) : Sized k x x := ⟨h, (abs_of_nonneg h0).le⟩

theorem neg (h : Sized k B x) : Sized k B (-x) := ⟨h.1.neg, (abs_neg x).trans_le h.2⟩

theorem add (hx : Sized k B x) (hy : Sized k C y) : Sized k (B + C) (x + y) :=
  ⟨hx.1.add hy.1, (abs_add_le x y).trans (add_le_add hx.2 hy.2)⟩

theorem sub (hx : Sized k B x) (hy : Sized k C y) : Sized k (B + C) (x - y) := by
  rw [sub_eq_add_neg]; exact hx.add hy.neg

/-- **Numbers whose bound has 28 digits are not rounded.** -/
theorem round (h : Sized k B x) (hB : B * 10 ^ k < 10 ^ 28) : Decimal.round x = x := by
  have hpow : (0 : ℚ) ≤ 10 ^ k := by positivity
  exact round_grid h.1 (lt_of_le_of_lt (mul_le_mul_of_nonneg_right h.2 hpow) hB)

theorem add_eq (hx : Sized k B x) (hy : Sized k C y) (h : (B + C) * 10 ^ k < 10 ^ 28) :
    Decimal.add x y = x + y := (hx.add hy).round h

theorem sub_eq (hx : Sized k B x) (hy : Sized k C y) (h : (B + C) * 10 ^ k < 10 ^ 28) :
    Decimal.sub x y = x - y := (hx.sub hy).round h

end Sized

end Quantbot.Core.Decimal
