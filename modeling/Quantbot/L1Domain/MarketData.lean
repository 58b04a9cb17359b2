import Quantbot.Core.StoredTime
import Mathlib.Algebra.Order.Ring.Rat

/-!
# Market data

`domain/models.py` and `domain/enums.py`: price bars, trading calendars and the identity of
a deployed strategy. Instants are microseconds since the epoch, dates are days since it,
both UTC.
-/
namespace Quantbot.L1

open Core

/-- mirrors enums.py:66 -/
inductive TradingCalendar
  | xnys | crypto24
deriving DecidableEq, Repr

/-- The year and the month of a day: what `strftime("%Y-%m")` writes. The era is the
400-year cycle, counted in years from March. -/
def yearMonth (day : Int) : Int × Int :=
  let fromMarch := day + 719468
  let era := fromMarch / 146097
  let dayOfEra := fromMarch % 146097
  let yearOfEra := (dayOfEra - dayOfEra / 1460 + dayOfEra / 36524 - dayOfEra / 146096) / 365
  let dayOfYear := dayOfEra - (365 * yearOfEra + yearOfEra / 4 - yearOfEra / 100)
  let monthFromMarch := (5 * dayOfYear + 2) / 153
  let month := if monthFromMarch < 10 then monthFromMarch + 3 else monthFromMarch - 9
  (yearOfEra + era * 400 + (if month ≤ 2 then 1 else 0), month)

example : [0, 30, 31, 11016, 11017, 19782, 19783].map yearMonth =
    [(1970, 1), (1970, 1), (1970, 2), (2000, 2), (2000, 3), (2024, 2), (2024, 3)] := by decide

/-- mirrors models.py:56-90 -/
structure Bar where
  symbol : String
  timestamp : Int
  opening : ℚ
  high : ℚ
  low : ℚ
  close : ℚ
  volume : ℚ
  adjustment : ℚ
  low_pos : 0 < low
  low_le_opening : low ≤ opening
  low_le_close : low ≤ close
  opening_le_high : opening ≤ high
  close_le_high : close ≤ high
  volume_nonneg : 0 ≤ volume
  adjustment_pos : 0 < adjustment

/-- mirrors models.py:213-218 -/
structure StrategyIdentity where
  strategyId : String
  version : String
  gitCommit : String
  configurationHash : String
  deploymentTimestamp : Int
deriving DecidableEq, Repr

/-! Round amounts, of which samples are made. -/

theorem nil_nonneg : (0 : ℚ) ≤ 0 := le_rfl
theorem unit_pos : (0 : ℚ) < 1 := by decide
theorem unit_nonneg : (0 : ℚ) ≤ 1 := by decide
theorem unit_le : (1 : ℚ) ≤ 1 := le_rfl
theorem pair_pos : (0 : ℚ) < 2 := by decide
theorem lot_pos : (0 : ℚ) < 4 := by decide
theorem ten_pos : (0 : ℚ) < 10 := by decide
theorem hundred_pos : (0 : ℚ) < 100 := by decide
theorem hundred_nonneg : (0 : ℚ) ≤ 100 := by decide
theorem dear_pos : (0 : ℚ) < 110 := by decide
theorem thousand_nonneg : (0 : ℚ) ≤ 1000 := by decide

end Quantbot.L1
