import GroundStation.Time.Duration

/-!
# Exponential backoff

The pace of repeated attempts: each delay is the previous one times a factor, and
never more than a maximum. Retransmitted commands and restarted tasks both use
it.

The next delay is computed before the present one is handed out, so a product
that is no duration spoils the call even where the maximum would have capped it.
-/

namespace GroundStation

/-- The delay to wait now, and what the following delays are made of. -/
structure Backoff where
  current : Duration
  min : Duration
  max : Duration
  multiplier : Float

namespace Backoff

/-- A backoff that starts at its least delay. -/
def new (min max : Duration) (multiplier : Float) : Backoff := ⟨min, min, max, multiplier⟩

/-- The delay to wait now and the backoff after it; nothing if the delay after this
one cannot be computed. -/
def next? (b : Backoff) : Option (Duration × Backoff) :=
  (b.current.scale? b.multiplier).map fun scaled =>
    (b.current, { b with current := b.max.shorter scaled })

/-- Starts over from the least delay. -/
def reset (b : Backoff) : Backoff := { b with current := b.min }

/-- The delay to wait now and the backoff after it, which stays as it is where no
longer delay can be computed. -/
def next (b : Backoff) : Duration × Backoff := b.next?.getD (b.current, b)

/-- A backoff that hands out a delay changes nothing but the next one. -/
theorem next_snd (b : Backoff) : b.next.2 = { b with current := b.next.2.current } := by
  unfold next next?
  cases b.current.scale? b.multiplier <;> rfl

end Backoff

end GroundStation
