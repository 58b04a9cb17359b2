import Quantbot.Core.Arith
import Quantbot.L1Domain.MarketData

/-!
# Indicators over bar series

`strategy/indicators.py`, over either arithmetic. The functions here are the calculations;
their input checks (`validateBars`, positive periods) are the callers' to have made, as
`validateHistory` does for every series and `StrategyConfig` for every period.
-/
namespace Quantbot.L3.Strategy

open Core L1

/-- The last `count` elements: `values[-count:]` for a positive `count`. -/
def lastN {α : Type} (count : ℕ) (values : List α) : List α := values.drop (values.length - count)

/-- `max(values)` of a nonempty sequence. -/
def maxOf : List ℚ → Option ℚ
  | [] => none
  | value :: values => some (values.foldl max value)

/-- `min(values)` of a nonempty sequence. -/
def minOf : List ℚ → Option ℚ
  | [] => none
  | value :: values => some (values.foldl min value)

/-- mirrors indicators.py:38-48 -/
def sma (A : Arith) (bars : List Bar) (period : ℕ) : Option ℚ :=
  if bars.length < period then none
  else some (A.div (A.sum ((lastN period bars).map (·.close))) period)

/-- `bars[-back]`. -/
def fromEnd (bars : List Bar) (back : ℕ) : Option Bar :=
  if back = 0 ∨ bars.length < back then none else bars[bars.length - back]?

/-- mirrors indicators.py:51-63 -/
def momentum121 (A : Arith) (bars : List Bar) (longPeriod skip : ℕ) : Option ℚ :=
  match fromEnd bars (skip + 1), fromEnd bars (longPeriod + 1) with
  | some recent, some distant => some (A.sub (A.div recent.close distant.close) 1)
  | _, _ => none

/-- The window of the two channels: `bars[-(period + 1) : -1]`. -/
def priorWindow (bars : List Bar) (period : ℕ) : List Bar := (lastN (period + 1) bars).dropLast

/-- mirrors indicators.py:66-72 -/
def donchianEntryLevel (bars : List Bar) (period : ℕ) : Option ℚ :=
  if bars.length < period + 1 then none else maxOf ((priorWindow bars period).map (·.high))

/-- mirrors indicators.py:75-81 -/
def donchianExitLevel (bars : List Bar) (period : ℕ) : Option ℚ :=
  if bars.length < period + 1 then none else minOf ((priorWindow bars period).map (·.low))

/-- One true range after the first.
mirrors indicators.py:94-101 -/
def trueRange (A : Arith) (previous current : Bar) : ℚ :=
  max (max (A.sub current.high current.low) |A.sub current.high previous.close|)
    |A.sub current.low previous.close|

/-- mirrors indicators.py:88-102 -/
def trueRanges (A : Arith) : List Bar → List ℚ
  | [] => []
  | first :: rest =>
    A.sub first.high first.low :: List.zipWith (trueRange A) (first :: rest) rest

/-- mirrors indicators.py:130-139 -/
def wilderAtr (A : Arith) (bars : List Bar) (period : ℕ) : Option ℚ :=
  let ranges := trueRanges A bars
  if ranges.length < period then none
  else
    some ((ranges.drop period).foldl
      (fun previous current => A.div (A.add (A.mul previous (period - 1 : ℕ)) current) period)
      (A.div (A.sum (ranges.take period)) period))

/-- mirrors indicators.py:142-148 -/
def highestHighSince (bars : List Bar) (enteredAt : Int) : Option ℚ :=
  maxOf ((bars.filter fun bar => enteredAt ≤ bar.timestamp).map (·.high))

end Quantbot.L3.Strategy
