import GroundStation.Telemetry.Memory

/-!
# The spacing of recent samples

A bounded list of the most recent intervals between emitted samples, in seconds
and oldest first. Its mean is the sampling period the station reports; an empty
history has none.
-/

namespace GroundStation

/-- The most recent intervals, oldest first. There is room for at least one. -/
structure SamplingHistory where
  capacity : Nat
  intervals : List Float
  capacity_pos : 0 < capacity
  length_le : intervals.length ≤ capacity

namespace SamplingHistory

/-- How many intervals the aggregator keeps. -/
def defaultCapacity : Nat := 10

/-- The octets that an interval takes. -/
def intervalOctets : Nat := 8

/-- Is there room for a history of a capacity? -/
def hasRoom (capacity : Nat) : Bool := fitsBlock capacity intervalOctets

/-- An empty history; a capacity of zero counts as one. -/
def new (capacity : Nat) : SamplingHistory where
  capacity := max capacity 1
  intervals := []
  capacity_pos := Nat.le_max_right capacity 1
  length_le := Nat.zero_le _

/-- The empty history of the usual capacity. -/
def empty : SamplingHistory := new defaultCapacity

/-- The intervals that another one leaves: a full history loses the oldest one. -/
def kept (h : SamplingHistory) : List Float :=
  if h.intervals.length = h.capacity then h.intervals.drop 1 else h.intervals

theorem length_kept_lt (h : SamplingHistory) : h.kept.length < h.capacity := by
  have hpos := h.capacity_pos
  have hle := h.length_le
  unfold kept
  split
  · rw [List.length_drop]
    omega
  · omega

/-- Adds an interval. -/
def push (h : SamplingHistory) (interval : Float) : SamplingHistory where
  capacity := h.capacity
  intervals := h.kept ++ [interval]
  capacity_pos := h.capacity_pos
  length_le := by
    rw [List.length_append]
    exact h.length_kept_lt

/-- The number of intervals kept. -/
def size (h : SamplingHistory) : Nat := h.intervals.length

/-- The sum of the intervals from the oldest to the newest. It starts at negative
zero, the number that changes no other under addition. -/
def sum (h : SamplingHistory) : Float := h.intervals.foldl (· + ·) (-0.0)

/-- The mean interval, if there is one. -/
def average (h : SamplingHistory) : Option Float :=
  if h.intervals.isEmpty then none else some (h.sum / Float.ofNat h.size)

end SamplingHistory

end GroundStation
