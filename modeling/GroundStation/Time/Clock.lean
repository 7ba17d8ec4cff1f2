import GroundStation.Time.Duration

/-!
# The clock of operations

Instants are whole milliseconds since the station started, because timers fire at
whole milliseconds; a timer for a part of a millisecond waits for the end of it.

The machine's clock counts on from what it read when the station started, up to
`2 ^ 63` seconds. A time limit that ends later has no deadline. A pause lasts no longer
than thirty years.
-/

namespace GroundStation

/-- A point of time in milliseconds since the station started. -/
abbrev Instant := Nat

/-- The first reading in nanoseconds to which no clock comes. -/
def clockLimit : Nat := Nat.pow 2 63 * nanosPerSecond

/-- The machine's clock: what it read, in nanoseconds, when the station started. -/
structure Clock where
  origin : Nat
deriving DecidableEq, Repr

namespace Clock

/-- The clock of a machine that is a second older than its station. -/
def young : Clock := ⟨nanosPerSecond⟩

/-- What the clock reads at an instant. -/
def reading (c : Clock) (now : Instant) : Nat := c.origin + 1000000 * now

/-- The instant at which a deadline set now is reached, if the clock comes to it. -/
def deadline? (c : Clock) (now : Instant) (timeout : Duration) : Option Instant :=
  if c.reading now + timeout.nanoseconds < clockLimit then some (now + timeout.timerMillis)
  else none

end Clock

/-- The milliseconds in thirty years, the longest pause. -/
def farFuture : Nat := 86400 * 365 * 30 * 1000

/-- The instant at which a pause that begins now is over. A longer pause than the longest
is cut short; to the end of that one the clock is taken to come. -/
def pauseEnd (now : Instant) (pause : Duration) : Instant := now + min pause.timerMillis farFuture

end GroundStation
