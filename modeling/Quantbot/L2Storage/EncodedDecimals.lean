import Quantbot.Core.Decimal
import Quantbot.Core.IsoText
import Quantbot.Core.Txn
import Mathlib.Data.List.TakeWhile
import Mathlib.Tactic.Linarith
import Mathlib.Tactic.Positivity
import Mathlib.Tactic.Ring

/-!
# Decimals as they are stored

`encode_decimal` writes a normalized decimal without an exponent, and `decode_decimal` reads it
back. Normalizing rounds to the 28 digits of the context.

* `decode_plain`: what is written is read as a decimal of the same value.
* `stored_decimals_iff`: a decimal is read back with its value, and two have one text exactly
  when they are equal, where nothing is rounded.
-/
namespace Quantbot.L2.EncodedDecimals

open Core Txn

/-- A finite `Decimal`: a sign, a coefficient and an exponent. -/
structure Number where
  negative : Bool
  coefficient : ℕ
  exponent : ℤ
deriving DecidableEq

def Number.value (x : Number) : ℚ := (if x.negative then -1 else 1) * (x.coefficient * 10 ^ x.exponent)

/-- `Emax` of the context. -/
def greatest : ℤ := 999999

/-- `Etiny` of the context. -/
def tiny : ℤ := -1000026

/-- How many digits the context leaves no room for. -/
def Number.excess (x : Number) : ℕ :=
  max (Nat.log 10 x.coefficient + 1 - Decimal.precision) (tiny - x.exponent).toNat

/-- A quotient, rounded half to even. -/
def halfEven (n m : ℕ) : ℕ :=
  if 2 * (n % m) < m ∨ 2 * (n % m) = m ∧ n / m % 2 = 0 then n / m else n / m + 1

/-- The zeros a number ends with. -/
def trailing (n : ℕ) : ℕ := Nat.findGreatest (fun k => 10 ^ k ∣ n) (Nat.log 10 n)

/-- `Decimal.normalize`. -/
def Number.normalize (x : Number) : Except String Number :=
  let n := halfEven x.coefficient (10 ^ x.excess)
  let e := x.exponent + x.excess
  if n = 0 then .ok ⟨x.negative, 0, 0⟩
  else if greatest < e + Nat.log 10 n then .error "Overflow"
  else .ok ⟨x.negative, n / 10 ^ trailing n, e + trailing n⟩

/-- The digits of `format(value, "f")`. -/
def Number.text (x : Number) : List Char :=
  if 0 ≤ x.exponent then Nat.toDigits 10 (x.coefficient * 10 ^ x.exponent.toNat)
  else Nat.toDigits 10 (x.coefficient / 10 ^ (-x.exponent).toNat) ++
    '.' :: digits (-x.exponent).toNat x.coefficient

def Number.plain (x : Number) : List Char := (if x.negative then ['-'] else []) ++ x.text

/-- mirrors database.py:131-137 -/
def encodeDecimal (value : Number) : Except String String :=
  if value.coefficient = 0 then .ok "0"
  else (fun x => String.ofList x.plain) <$> value.normalize

/-- A text of digits with at most one point among them. -/
def unsigned (negative : Bool) (cs : List Char) : Option Number :=
  let whole := cs.takeWhile Char.isDigit
  match cs.dropWhile Char.isDigit with
  | [] => if whole = [] then none else some ⟨negative, Nat.ofDigitChars 10 whole 0, 0⟩
  | point :: rest =>
    if point = '.' ∧ rest.all Char.isDigit ∧ whole ++ rest ≠ [] then
      some ⟨negative, Nat.ofDigitChars 10 (whole ++ rest) 0, -rest.length⟩
    else none

/-- Of a text without an exponent.
mirrors database.py:140-148 -/
def decodeDecimal (value : String) : Except String Number :=
  match if value.toList.head? = some '-' then unsigned true value.toList.tail
    else unsigned false value.toList with
  | none => .error "encoded decimal is invalid"
  | some x => .ok x

/-! ## Texts -/

variable {x y : Number} {l : List Char} {m n : ℕ}

theorem digits_isDigit (k n : ℕ) : ∀ c ∈ digits k n, c.isDigit = true := by
  induction k with
  | zero => nofun
  | succ k ih =>
    have hdigit : n / 10 ^ k % 10 < 10 := Nat.mod_lt _ (by omega)
    exact List.forall_mem_cons.2 ⟨by rw [Nat.isDigit_digitChar]; simpa using hdigit, ih⟩

theorem length_digits (k n : ℕ) : (digits k n).length = k := by
  induction k with
  | zero => rfl
  | succ k ih => exact congrArg Nat.succ ih

theorem ofDigitChars_digits (k m n : ℕ) :
    Nat.ofDigitChars 10 (digits k n) m = m * 10 ^ k + n % 10 ^ k := by
  induction k generalizing m with
  | zero => simp [digits, Nat.mod_one]
  | succ k ih =>
    have hdigit : n / 10 ^ k % 10 < 10 := Nat.mod_lt _ (by omega); unfold digits
    rw [Nat.ofDigitChars_cons_digitChar_of_lt_ten hdigit, ih, Nat.mod_pow_succ]; ring

theorem toDigits_isDigit (n : ℕ) : ∀ c ∈ Nat.toDigits 10 n, c.isDigit = true :=
  fun _ hc => Nat.isDigit_of_mem_toDigits (by decide) (by decide) hc

theorem unsigned_whole (negative : Bool) (n : ℕ) :
    unsigned negative (Nat.toDigits 10 n) = some ⟨negative, n, 0⟩ := by
  unfold unsigned
  rw [List.takeWhile_eq_self_iff.2 (toDigits_isDigit n),
    List.dropWhile_eq_nil_iff.2 (toDigits_isDigit n)]
  exact (if_neg Nat.toDigits_ne_nil).trans (by rw [Nat.ofDigitChars_ten_toDigits])

theorem unsigned_point (negative : Bool) (k n : ℕ) :
    unsigned negative (Nat.toDigits 10 (n / 10 ^ k) ++ '.' :: digits k n) =
      some ⟨negative, n, -k⟩ := by
  have hwhole := toDigits_isDigit (n / 10 ^ k); unfold unsigned
  rw [List.takeWhile_append_of_pos hwhole, List.dropWhile_append_of_pos hwhole]
  have hall : (digits k n).all Char.isDigit = true := List.all_eq_true.2 (digits_isDigit k n)
  refine (if_pos ⟨rfl, hall, by simp [Nat.toDigits_ne_nil]⟩).trans ?_
  have hpoint : List.takeWhile Char.isDigit ('.' :: digits k n) = [] := rfl
  rw [hpoint, List.append_nil, Nat.ofDigitChars_append, Nat.ofDigitChars_ten_toDigits,
    ofDigitChars_digits, length_digits, Nat.div_add_mod']

theorem text_head (x : Number) : x.text.head? ≠ some '-' := by
  have hdigit : ∀ n l, (Nat.toDigits 10 n ++ l).head? ≠ some '-' := by
    intro n l h; rw [List.head?_append_of_ne_nil _ Nat.toDigits_ne_nil] at h
    cases (toDigits_isDigit n _ (List.mem_of_head? h))
  unfold Number.text; split
  · simpa using hdigit _ []
  · exact hdigit _ _

theorem unsigned_text (x : Number) :
    ∃ y, unsigned x.negative x.text = some y ∧ y.value = x.value := by
  unfold Number.text; split
  next he =>
    have hpow : (10 : ℚ) ^ x.exponent.toNat = 10 ^ x.exponent := by
      rw [← zpow_natCast, Int.toNat_of_nonneg he]
    exact ⟨_, unsigned_whole _ _, by simp [Number.value, hpow]⟩
  next he =>
    have hexponent : -(((-x.exponent).toNat : ℕ) : ℤ) = x.exponent := by omega
    exact ⟨_, unsigned_point _ _ _, by rw [hexponent]⟩

/-- **What is written is read** as a decimal of the same value. -/
theorem decode_plain (x : Number) :
    ∃ y, decodeDecimal (String.ofList x.plain) = .ok y ∧ y.value = x.value := by
  obtain ⟨y, hy, hvalue⟩ := unsigned_text x; refine ⟨y, ?_, hvalue⟩
  unfold decodeDecimal Number.plain
  cases hnegative : x.negative with
  | false =>
    rw [hnegative] at hy; simp [text_head x, hy]
  | true =>
    rw [hnegative] at hy; simp [hy]

/-! ## Rounding -/

/-- The digits past the 28th and those below `Etiny` are zeros, and the first is not above
`Emax`. -/
def Number.Exact (x : Number) : Prop :=
  10 ^ x.excess ∣ x.coefficient ∧
    (x.coefficient = 0 ∨ x.exponent + Nat.log 10 x.coefficient ≤ greatest)
deriving Decidable

theorem value_eq_zero_iff : x.value = 0 ↔ x.coefficient = 0 := by
  unfold Number.value; cases x.negative <;> simp [zpow_ne_zero]

theorem value_shift (b : Bool) (n k : ℕ) (e : ℤ) :
    (⟨b, n, e + k⟩ : Number).value = (⟨b, n * 10 ^ k, e⟩ : Number).value := by
  unfold Number.value; dsimp only; rw [zpow_add₀ (by norm_num), zpow_natCast]
  push_cast; ring

theorem value_inj {b : Bool} {e : ℤ} :
    (⟨b, m, e⟩ : Number).value = (⟨b, n, e⟩ : Number).value ↔ m = n := by
  unfold Number.value
  have hsign : (if b then (-1 : ℚ) else 1) ≠ 0 := by split <;> norm_num
  have hpow : (10 : ℚ) ^ e ≠ 0 := zpow_ne_zero _ (by norm_num); dsimp only
  rw [mul_right_inj' hsign, mul_left_inj' hpow, Nat.cast_inj]

theorem log_div_pow (n k : ℕ) : Nat.log 10 (n / 10 ^ k) = Nat.log 10 n - k := by
  induction k with
  | zero => simp
  | succ k ih => rw [pow_succ, ← Nat.div_div_eq_div_mul, Nat.log_div_base, ih, Nat.sub_sub]

theorem trailing_dvd (n : ℕ) : 10 ^ trailing n ∣ n :=
  Nat.findGreatest_spec (P := fun k => 10 ^ k ∣ n) (Nat.zero_le _) (by simp)

theorem not_dvd_trailing (hn : n ≠ 0) : ¬ 10 ∣ n / 10 ^ trailing n := by
  intro h
  have hpow : 10 ^ (trailing n + 1) ∣ n := by
    have hmul := Nat.mul_dvd_mul_left (10 ^ trailing n) h
    rwa [Nat.mul_div_cancel' (trailing_dvd n), ← pow_succ] at hmul
  have hle : trailing n + 1 ≤ Nat.log 10 n :=
    (Nat.le_log_iff_pow_le (by omega) hn).2 (Nat.le_of_dvd (by omega) hpow)
  have hmax := Nat.le_findGreatest (P := fun k => 10 ^ k ∣ n) hle hpow
  unfold trailing at hmax; omega

theorem halfEven_of_dvd (h : m ∣ n) (hm : 0 < m) : halfEven n m = n / m := by
  unfold halfEven; rw [Nat.mod_eq_zero_of_dvd h]; exact if_pos (.inl (by omega))

theorem not_dvd_normalize (h : x.normalize = .ok y) (hy : y.coefficient ≠ 0) :
    ¬ 10 ∣ y.coefficient := by
  unfold Number.normalize at h; dsimp only at h; split at h
  · cases h; exact absurd rfl hy
  split at h
  · cases h
  next hn _ => cases h; exact not_dvd_trailing hn

/-- What normalizing makes of a decimal that does not round to zero. -/
theorem normalize_value (h : x.normalize = .ok y) (hn : halfEven x.coefficient (10 ^ x.excess) ≠ 0) :
    x.exponent + x.excess + Nat.log 10 (halfEven x.coefficient (10 ^ x.excess)) ≤ greatest ∧
      y.value = (⟨x.negative, halfEven x.coefficient (10 ^ x.excess) * 10 ^ x.excess,
        x.exponent⟩ : Number).value := by
  unfold Number.normalize at h; dsimp only at h; rw [if_neg hn] at h
  split at h
  · cases h
  next hle =>
    cases h; refine ⟨not_lt.1 hle, ?_⟩
    rw [value_shift, Nat.div_mul_cancel (trailing_dvd _), value_shift]

theorem log_excess (hx : x.coefficient ≠ 0) (h : 10 ^ x.excess ∣ x.coefficient) :
    x.exponent + x.excess + Nat.log 10 (x.coefficient / 10 ^ x.excess) =
      x.exponent + Nat.log 10 x.coefficient := by
  have hle : x.excess ≤ Nat.log 10 x.coefficient :=
    (Nat.le_log_iff_pow_le (by omega) hx).2 (Nat.le_of_dvd (by omega) h)
  rw [log_div_pow]; omega

/-- **Nothing is rounded** exactly when the value stays. -/
theorem exact_iff (hx : x.coefficient ≠ 0) :
    x.Exact ↔ ∃ y, x.normalize = .ok y ∧ y.value = x.value := by
  have hpos : 0 < 10 ^ x.excess := by positivity
  constructor
  · rintro ⟨hdvd, h⟩; have hn := halfEven_of_dvd hdvd hpos
    have hle := log_excess hx hdvd ▸ h.resolve_left hx
    have hn0 : x.coefficient / 10 ^ x.excess ≠ 0 :=
      (Nat.div_pos (Nat.le_of_dvd (by omega) hdvd) hpos).ne'
    obtain ⟨y, hy⟩ : ∃ y, x.normalize = .ok y := by
      unfold Number.normalize; dsimp only
      rw [hn, if_neg hn0, if_neg (not_lt.2 hle)]; exact ⟨_, rfl⟩
    have hvalue := (normalize_value hy (hn ▸ hn0)).2
    rw [hn, Nat.div_mul_cancel hdvd] at hvalue; exact ⟨y, hy, hvalue⟩
  · rintro ⟨y, hy, hvalue⟩
    have hn : halfEven x.coefficient (10 ^ x.excess) ≠ 0 := by
      intro h; unfold Number.normalize at hy; dsimp only at hy
      rw [if_pos h] at hy; cases hy
      exact hx (value_eq_zero_iff.1 (hvalue.symm.trans (value_eq_zero_iff.2 rfl)))
    obtain ⟨hle, hy'⟩ := normalize_value hy hn
    have hmul := value_inj.1 (hy'.symm.trans hvalue)
    have hdvd : 10 ^ x.excess ∣ x.coefficient := ⟨_, hmul.symm.trans (Nat.mul_comm _ _)⟩
    rw [halfEven_of_dvd hdvd hpos, log_excess hx hdvd] at hle
    exact ⟨hdvd, .inr hle⟩

/-- Two normal forms of one value are the same. -/
theorem eq_of_value_eq (hx : ¬ 10 ∣ x.coefficient) (hy : ¬ 10 ∣ y.coefficient)
    (h : x.value = y.value) : x = y := by
  wlog hle : x.exponent ≤ y.exponent generalizing x y
  · exact (this hy hx h.symm (not_le.1 hle).le).symm
  obtain ⟨b, m, e⟩ := x; obtain ⟨b', n, f⟩ := y
  obtain ⟨k, rfl⟩ := Int.le.dest hle
  have hb : b = b' := by
    have hpos : ∀ {n : ℕ} {e : ℤ}, ¬ 10 ∣ n → (0 : ℚ) < n * 10 ^ e := by
      intro n e hn; have hn0 : n ≠ 0 := by rintro rfl; simp at hn
      exact mul_pos (by exact_mod_cast hn0.bot_lt) (zpow_pos (by norm_num) e)
    have hm := hpos (e := e) hx; have hn := hpos (e := e + k) hy
    unfold Number.value at h; cases b <;> cases b' <;> simp at h ⊢ <;> linarith
  subst hb; rw [value_shift, value_inj] at h
  cases k with
  | zero => simp [h]
  | succ k => exact absurd (h ▸ Dvd.intro_left (n * 10 ^ k) (by rw [pow_succ]; ring)) hx

theorem encodeDecimal_ok_iff {s : String} (hx : x.coefficient ≠ 0) :
    encodeDecimal x = .ok s ↔ ∃ y, x.normalize = .ok y ∧ String.ofList y.plain = s := by
  unfold encodeDecimal; rw [if_neg hx]; cases x.normalize <;> simp

/-- One decimal is read back with its value exactly when nothing of it is rounded. -/
theorem decode_encode_iff (x : Number) :
    (∃ s, encodeDecimal x = .ok s ∧ ∃ y, decodeDecimal s = .ok y ∧ y.value = x.value) ↔
      x.Exact := by
  by_cases hx : x.coefficient = 0
  · refine iff_of_true ⟨"0", if_pos hx, ⟨false, 0, 0⟩, rfl, ?_⟩ ⟨hx ▸ dvd_zero _, .inl hx⟩
    exact (value_eq_zero_iff.2 rfl).trans (value_eq_zero_iff.2 hx).symm
  rw [exact_iff hx]; constructor
  · rintro ⟨s, hs, y, hy, hvalue⟩
    obtain ⟨z, hz, rfl⟩ := (encodeDecimal_ok_iff hx).1 hs
    obtain ⟨y', hy', hz'⟩ := decode_plain z; cases hy.symm.trans hy'
    exact ⟨z, hz, hz'.symm.trans hvalue⟩
  · rintro ⟨y, hy, hvalue⟩; obtain ⟨z, hz, hzy⟩ := decode_plain y
    exact ⟨_, (encodeDecimal_ok_iff hx).2 ⟨y, hy, rfl⟩, z, hz, hzy.trans hvalue⟩

theorem encodeDecimal_congr (hx : x.Exact) (hy : y.Exact) (h : x.value = y.value) :
    encodeDecimal x = encodeDecimal y := by
  have hzero : x.coefficient = 0 ↔ y.coefficient = 0 := by
    rw [← value_eq_zero_iff, h, value_eq_zero_iff]
  by_cases h0 : x.coefficient = 0
  · exact (if_pos h0).trans (if_pos (hzero.1 h0)).symm
  have hy0 := mt hzero.2 h0; obtain ⟨a, ha, hax⟩ := (exact_iff h0).1 hx
  obtain ⟨b, hb, hby⟩ := (exact_iff hy0).1 hy
  have ha0 : a.coefficient ≠ 0 := by rwa [Ne, ← value_eq_zero_iff, hax, value_eq_zero_iff]
  have hb0 : b.coefficient ≠ 0 := by rwa [Ne, ← value_eq_zero_iff, hby, value_eq_zero_iff]
  cases eq_of_value_eq (not_dvd_normalize ha ha0) (not_dvd_normalize hb hb0)
    (hax.trans (h.trans hby.symm))
  unfold encodeDecimal; rw [if_neg h0, if_neg hy0, ha, hb]

/-- **Stored decimals.** Two decimals are read back with their values, and have one text exactly
when they are equal, exactly when nothing of them is rounded. -/
theorem stored_decimals_iff (a b : Number) :
    (∃ s t, encodeDecimal a = .ok s ∧ encodeDecimal b = .ok t ∧
      (∃ x, decodeDecimal s = .ok x ∧ x.value = a.value) ∧
      (∃ x, decodeDecimal t = .ok x ∧ x.value = b.value) ∧ (s = t ↔ a.value = b.value)) ↔
    a.Exact ∧ b.Exact := by
  constructor
  · rintro ⟨s, t, hs, ht, ha, hb, -⟩
    exact ⟨(decode_encode_iff a).1 ⟨s, hs, ha⟩, (decode_encode_iff b).1 ⟨t, ht, hb⟩⟩
  · rintro ⟨ha, hb⟩; obtain ⟨s, hs, x, hx, hxa⟩ := (decode_encode_iff a).2 ha
    obtain ⟨t, ht, y, hy, hyb⟩ := (decode_encode_iff b).2 hb
    refine ⟨s, t, hs, ht, ⟨x, hx, hxa⟩, ⟨y, hy, hyb⟩, ?_, ?_⟩
    · rintro rfl; cases hx.symm.trans hy; exact hxa.symm.trans hyb
    · intro h; cases hs.symm.trans ((encodeDecimal_congr ha hb h).trans ht); rfl

/-- Two integers of 29 digits are stored alike. -/
theorem long_integers_alike :
    encodeDecimal ⟨false, 10 ^ 28 + 1, 0⟩ = encodeDecimal ⟨false, 10 ^ 28, 0⟩ ∧
      (⟨false, 10 ^ 28 + 1, 0⟩ : Number).value ≠ (⟨false, 10 ^ 28, 0⟩ : Number).value :=
  ⟨by decide, by simp [value_inj]⟩

end Quantbot.L2.EncodedDecimals
