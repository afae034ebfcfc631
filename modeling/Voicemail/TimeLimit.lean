import Voicemail.Number.Layout
import Voicemail.Text.Numeral

/-!
# Time limits

How long the client waits for an answer, as a number of seconds. A limit of zero or less, or one
that is no number, means not to wait at all. The clock counts in billionths of a second with 64
bits, and a limit beyond its range cannot be waited for.
-/

namespace Voicemail

/-- A number of seconds, as it was given. -/
inductive TimeLimit where
  | whole (n : Int)
  | real (x : Binary64)
  deriving DecidableEq, Repr

namespace TimeLimit

/-- A limit as a message shows it. -/
def text : TimeLimit → String
  | .whole n => String.ofList (Text.writeInt n)
  | .real x => x.text

/-- The number of ticks of the clock from which on it cannot count. -/
def clockRange : Nat := Word.bound

/-- How many ticks of the clock a second has. -/
def ticks : Nat := 1000000000

/-- Whether a limit is beyond the range of the clock. -/
def isBeyondClock : TimeLimit → Bool
  | .whole n => decide (clockRange ≤ n * ticks)
  | .real .nan => false
  | .real (.infinite negative) => !negative
  | .real (.finite negative mantissa exponent) =>
    let (num, den) := Binary64.ratio mantissa exponent
    !negative && clockRange * den ≤ num * ticks

end TimeLimit

end Voicemail
