import GroundStation.Number.Binary

/-!
# Lengths of time

A duration counts nanoseconds and is shorter than `2 ^ 64` seconds. Durations
meet floating-point seconds in two places: a waypoint's hover time is configured
in seconds (`Duration.ofSeconds?`), and a backoff multiplies its delay by a
factor (`Duration.scale?`). Both fail rather than clamp when the result is no
duration: a negative or infinite number, no number, or a length out of range.

`Duration.seconds` rounds three times, as the sum of whole seconds and a
fraction does in double precision; `Duration.scale?` rounds the product once
more before the result goes back to nanoseconds.
-/

namespace GroundStation

/-- The nanoseconds in a second. -/
def nanosPerSecond : Nat := 1000000000

/-- The first number of nanoseconds that is too long for a duration. -/
def durationLimit : Nat := Nat.pow 2 64 * nanosPerSecond

/-- A length of time in nanoseconds. -/
structure Duration where
  nanoseconds : Nat
  bounded : nanoseconds < durationLimit := by decide
deriving DecidableEq, Repr

namespace Duration

/-- The duration of so many nanoseconds, if there is one. -/
def ofNanoseconds? (n : Nat) : Option Duration :=
  if h : n < durationLimit then some ⟨n, h⟩ else none

/-- The longest duration. -/
def longest : Duration := ⟨durationLimit - 1, by decide⟩

/-- The duration of so many nanoseconds, or the longest one. -/
def ofNanoseconds (n : Nat) : Duration := (ofNanoseconds? n).getD longest

/-- A duration of whole seconds. -/
def ofSeconds (n : Nat) : Duration := ofNanoseconds (n * nanosPerSecond)

/-- A duration of whole milliseconds. -/
def ofMillis (n : Nat) : Duration := ofNanoseconds (n * 1000000)

/-- The whole seconds of a duration. -/
def wholeSeconds (d : Duration) : Nat := d.nanoseconds / nanosPerSecond

/-- The nanoseconds beyond the whole seconds. -/
def subsecond (d : Duration) : Nat := d.nanoseconds % nanosPerSecond

/-- The milliseconds a timer waits for this duration: it never fires early. -/
def timerMillis (d : Duration) : Nat := (d.nanoseconds + 999999) / 1000000

/-- The shorter of two durations. -/
def shorter (a b : Duration) : Duration := if a.nanoseconds ≤ b.nanoseconds then a else b

/-- The duration nearest to a fraction of a second, a half nanosecond going to the
even neighbour. -/
def ofFraction? (x : Fraction) : Option Duration :=
  ofNanoseconds? (roundHalfEven (x.num * nanosPerSecond) x.den)

/-- The duration nearest to a number of seconds. Negative zero is zero. -/
def ofSeconds? (x : Float) : Option Duration :=
  match doubleValue x with
  | .finite negative m q => if negative ∧ 0 < m then none else ofFraction? (.scaled m q)
  | _ => none

/-- A duration in seconds, rounded to double precision: the whole seconds, the
fraction and their sum are rounded one by one. -/
def seconds (d : Duration) : Fraction :=
  let whole := Fraction.roundTo ⟨d.wholeSeconds, 1⟩ binary64
  let rest := Fraction.roundTo ⟨d.subsecond, nanosPerSecond⟩ binary64
  (whole.add rest).roundTo binary64

/-- A duration multiplied by a factor in double precision. -/
def scale? (d : Duration) (factor : Float) : Option Duration :=
  match doubleValue factor with
  | .finite negative m q =>
    let product := (d.seconds.mul (.scaled m q)).roundTo binary64
    if negative ∧ 0 < product.num then none else ofFraction? product
  | _ => none

end Duration

end GroundStation
