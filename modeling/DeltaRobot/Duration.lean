import DeltaRobot.Scalar.Binary64

/-!
Contract: lengths of time in seconds.

A length of time is counted in whole nanoseconds, which must fit 64 bits. Its number of seconds is
the count as a number, divided once.

Owns: `Duration.seconds?`.
Does not own: any clock.
-/

namespace DeltaRobot

/-- A length of time as seconds and nanoseconds, which add up. -/
structure Duration where
  seconds : Int
  nanoseconds : Nat
deriving DecidableEq, Repr

namespace Duration

def nanosecondsPerSecond : Nat := Nat.pow 10 9

/-- The whole length in nanoseconds. -/
def total (duration : Duration) : Int :=
  duration.seconds * nanosecondsPerSecond + duration.nanoseconds

/-- The number of seconds, unless the count of nanoseconds is beyond 64 bits. -/
def seconds? (duration : Duration) : Option Float :=
  if -Int.pow 2 63 ≤ duration.total ∧ duration.total < Int.pow 2 63 then
    some (Binary64.floatOfInt duration.total / Float.ofNat nanosecondsPerSecond)
  else none

end Duration

end DeltaRobot
