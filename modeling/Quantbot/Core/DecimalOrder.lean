import Quantbot.Core.DecimalGrid

/-!
# Rounding keeps the order

* `round_mono`, `round_round`: rounding is monotone and idempotent on nonnegative numbers;
* `le_add`: adding something nonnegative to a result does not lower it;
* `sum_sublist`: neither does a further nonnegative summand anywhere in a sum.
-/
namespace Quantbot.Core.Decimal

theorem floor_le_nearestEven (x : ℚ) : ⌊x⌋ ≤ nearestEven x := by
  unfold nearestEven; dsimp only; split_ifs <;> omega

theorem nearestEven_le_floor (x : ℚ) : nearestEven x ≤ ⌊x⌋ + 1 := by
  unfold nearestEven; dsimp only; split_ifs <;> omega

theorem nearestEven_mono {x y : ℚ} (h : x ≤ y) : nearestEven x ≤ nearestEven y := by
  rcases (Int.floor_le_floor h).lt_or_eq with hlt | heq
  · have hx := nearestEven_le_floor x; have hy := floor_le_nearestEven y; omega
  · unfold nearestEven; dsimp only; rw [heq]
    split_ifs <;> first | omega | (exfalso; linarith)

theorem magnitude_eq (x : ℚ) : magnitude x = nearestEven (x / unit x) * unit x := rfl

theorem unit_mul (x : ℚ) : ((10 ^ 27 : ℤ) : ℚ) * unit x = 10 ^ Int.log 10 x := by
  have h27 : ((10 ^ 27 : ℤ) : ℚ) = 10 ^ (27 : ℤ) := by norm_num
  unfold unit precision; rw [h27, ← zpow_add₀ (by norm_num)]; congr 1; omega

theorem magnitude_bounds {x : ℚ} (hx : 0 < x) :
    (10 : ℚ) ^ Int.log 10 x ≤ magnitude x ∧ magnitude x ≤ (10 : ℚ) ^ (Int.log 10 x + 1) := by
  have hunit := unit_pos x
  have hhigh : (10 : ℚ) ^ (Int.log 10 x + 1) = ((10 ^ 28 : ℤ) : ℚ) * unit x := by
    rw [zpow_add_one₀ (by norm_num), ← unit_mul]; ring
  have hle : (10 : ℚ) ^ Int.log 10 x ≤ x := by
    exact_mod_cast Int.zpow_log_le_self (b := 10) (r := x) (by norm_num) hx
  have hlt : x < (10 : ℚ) ^ (Int.log 10 x + 1) := by
    exact_mod_cast Int.lt_zpow_succ_log_self (b := 10) (by norm_num) x
  rw [← unit_mul] at hle ⊢; rw [hhigh] at hlt ⊢
  have hdown := nearestEven_mono ((le_div_iff₀ hunit).2 hle)
  have hup := nearestEven_mono ((div_le_iff₀ hunit).2 hlt.le)
  rw [nearestEven_intCast] at hdown hup
  exact ⟨mul_le_mul_of_nonneg_right (Int.cast_le.2 hdown) hunit.le,
    mul_le_mul_of_nonneg_right (Int.cast_le.2 hup) hunit.le⟩

theorem round_of_pos {x : ℚ} (hx : 0 < x) : round x = magnitude x := by
  unfold round; rw [if_neg hx.ne', if_neg (not_lt.2 hx.le)]

theorem round_mono {x y : ℚ} (hx : 0 ≤ x) (h : x ≤ y) : round x ≤ round y := by
  rcases hx.eq_or_lt with rfl | hpos
  · exact round_nonneg h
  rw [round_of_pos hpos, round_of_pos (hpos.trans_le h)]
  rcases (Int.log_mono_right (b := 10) hpos h).lt_or_eq with hlt | heq
  · calc magnitude x ≤ (10 : ℚ) ^ (Int.log 10 x + 1) := (magnitude_bounds hpos).2
      _ ≤ (10 : ℚ) ^ Int.log 10 y := zpow_le_zpow_right₀ (by norm_num) hlt
      _ ≤ magnitude y := (magnitude_bounds (hpos.trans_le h)).1
  unfold magnitude; rw [heq]
  have hunit : (0 : ℚ) < 10 ^ (Int.log 10 y + 1 - precision) := zpow_pos (by norm_num) _
  exact mul_le_mul_of_nonneg_right
    (by exact_mod_cast nearestEven_mono (div_le_div_of_nonneg_right h hunit.le)) hunit.le

theorem round_round {x : ℚ} (hx : 0 ≤ x) : round (round x) = round x := by
  rcases hx.eq_or_lt with rfl | hpos
  · rfl
  obtain ⟨hlow, hhigh⟩ := magnitude_bounds hpos
  have hmpos : 0 < magnitude x := (zpow_pos (by norm_num) _).trans_le hlow
  rw [round_of_pos hpos, round_of_pos hmpos]
  rcases hhigh.lt_or_eq with hlt | heq
  · -- the result has as many digits as the exact value
    have hlog : Int.log 10 (magnitude x) = Int.log 10 x := by
      apply le_antisymm
      · exact Int.lt_add_one_iff.1 ((Int.lt_zpow_iff_log_lt (by norm_num) hmpos).1
          (by exact_mod_cast hlt))
      · exact (Int.zpow_le_iff_le_log (by norm_num) hmpos).1 (by exact_mod_cast hlow)
    have hunit : unit (magnitude x) = unit x := by
      unfold unit; rw [hlog]
    rw [magnitude_eq (magnitude x), hunit]
    nth_rewrite 1 [magnitude_eq x]
    rw [mul_div_cancel_right₀ _ (unit_pos x).ne', nearestEven_intCast, ← magnitude_eq]
  · -- rounded up to the next power of ten
    have hlog : Int.log 10 (magnitude x) = Int.log 10 x + 1 := by
      rw [heq]
      exact_mod_cast Int.log_zpow (R := ℚ) (b := 10) (by norm_num) (Int.log 10 x + 1)
    have hvalue : magnitude x = ((10 ^ 27 : ℤ) : ℚ) * unit (magnitude x) := by
      rw [unit_mul, hlog, heq]
    have hdiv : magnitude x / unit (magnitude x) = ((10 ^ 27 : ℤ) : ℚ) := by
      rw [div_eq_iff (unit_pos _).ne']; exact hvalue
    rw [magnitude_eq (magnitude x), hdiv, nearestEven_intCast, ← hvalue]

theorem le_add {x b : ℚ} (hx : 0 ≤ x) (hround : round x = x) (hb : 0 ≤ b) : x ≤ add x b := by
  have h : round x ≤ round (x + b) := round_mono hx (by linarith)
  rwa [hround] at h

theorem foldl_add_sublist {l l' : List ℚ} (h : l.Sublist l') (hl : ∀ b ∈ l', 0 ≤ b) {x x' : ℚ}
    (hx : 0 ≤ x) (hxx' : x ≤ x') (hround : round x' = x') : l.foldl add x ≤ l'.foldl add x' := by
  induction h generalizing x x' with
  | slnil => exact hxx'
  | cons b _ ih =>
    have hb := hl b List.mem_cons_self
    have hstep := le_add (hx.trans hxx') hround hb
    exact ih (fun c hc => hl c (List.mem_cons_of_mem _ hc)) hx (hxx'.trans hstep)
      (round_round (by linarith))
  | cons_cons b _ ih =>
    have hb := hl b List.mem_cons_self
    exact ih (fun c hc => hl c (List.mem_cons_of_mem _ hc)) (round_nonneg (by linarith))
      (round_mono (by linarith) (by linarith)) (round_round (by linarith))

theorem sum_sublist {l l' : List ℚ} (h : l.Sublist l') (hl : ∀ b ∈ l', 0 ≤ b) : sum l ≤ sum l' :=
  foldl_add_sublist h hl le_rfl le_rfl round_zero

end Quantbot.Core.Decimal
