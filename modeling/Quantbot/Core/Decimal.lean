import Mathlib.Algebra.Order.Field.Rat
import Mathlib.Data.Int.Log
import Mathlib.Data.Rat.Floor

/-!
# Decimal arithmetic

Decimal floating point with the default precision of 28 significant digits: a
result is the exact value rounded half to even, sign and magnitude apart.
Comparisons are exact. Exponents are unbounded.
-/
namespace Quantbot.Core.Decimal

def precision : Nat := 28

/-- The nearest integer; of two, the even one. -/
def nearestEven (x : ℚ) : ℤ :=
  let below := ⌊x⌋
  let rest := x - below
  if rest < 1 / 2 then below
  else if 1 / 2 < rest then below + 1
  else if below % 2 = 0 then below
  else below + 1

/-- A positive magnitude to `precision` significant digits. -/
def magnitude (x : ℚ) : ℚ :=
  let unit : ℚ := 10 ^ (Int.log 10 x + 1 - precision)
  nearestEven (x / unit) * unit

/-- The value of a result in the decimal context. -/
def round (x : ℚ) : ℚ :=
  if x = 0 then 0 else if x < 0 then -magnitude (-x) else magnitude x

@[simp] theorem round_zero : round 0 = 0 := rfl

@[simp] theorem round_neg (x : ℚ) : round (-x) = -round x := by
  unfold round; rcases lt_trichotomy x 0 with h | h | h
  · have h' : ¬ -x < 0 := by simpa using h.le
    rw [if_neg (neg_ne_zero.2 h.ne), if_neg h', if_neg h.ne, if_pos h, neg_neg]
  · subst h; rw [neg_zero, if_pos rfl, if_pos rfl, neg_zero]
  · have h' : -x < 0 := neg_lt_zero.2 h
    rw [if_neg h'.ne, if_pos h', if_neg h.ne', if_neg (not_lt.2 h.le), neg_neg]

def add (a b : ℚ) : ℚ := round (a + b)

def sub (a b : ℚ) : ℚ := round (a - b)

def mul (a b : ℚ) : ℚ := round (a * b)

def div (a b : ℚ) : ℚ := round (a / b)

/-- `sum(values, Decimal("0"))`. -/
def sum (l : List ℚ) : ℚ := l.foldl add 0

theorem sub_swap (a b : ℚ) : sub b a = -sub a b := by
  unfold sub; rw [← neg_sub, round_neg]

theorem sub_neg_neg (a b : ℚ) : sub (-a) (-b) = -sub a b := by
  unfold sub; rw [neg_sub_neg, ← round_neg, neg_sub]

theorem abs_sub_swap (a b : ℚ) : |sub b a| = |sub a b| := by rw [sub_swap, abs_neg]

/-- A digit past the 28th is lost. -/
example : round (1 + 1 / 10 ^ 28) = 1 := by decide +kernel

end Quantbot.Core.Decimal
