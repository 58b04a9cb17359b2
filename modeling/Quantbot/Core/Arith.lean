import Quantbot.Core.Decimal

/-!
# Two arithmetics for one program

A calculation on decimals is written once, over the four operations; `Arith.decimal` is
what the interpreter computes and `Arith.exact` what the calculation is about.
Comparisons, minima and maxima do not round.
-/
namespace Quantbot.Core

structure Arith where
  add : ℚ → ℚ → ℚ
  sub : ℚ → ℚ → ℚ
  mul : ℚ → ℚ → ℚ
  div : ℚ → ℚ → ℚ

namespace Arith

def exact : Arith := ⟨(· + ·), (· - ·), (· * ·), (· / ·)⟩

def decimal : Arith := ⟨Decimal.add, Decimal.sub, Decimal.mul, Decimal.div⟩

/-- `sum(values, Decimal(0))`. -/
def sum (A : Arith) (values : List ℚ) : ℚ := values.foldl A.add 0

end Arith
end Quantbot.Core
