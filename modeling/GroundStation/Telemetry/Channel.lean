import GroundStation.Telemetry.Memory

/-!
# Lossy broadcast

A channel hands every value to every receiver, but keeps only the latest values:
as many as its capacity rounded up to a power of two. Sending never waits. A
receiver is a position in the sequence of all values ever sent; one that falls
too far behind is told once how many values it lost and goes on with the oldest
value still kept.

The channel's state is its latest values and the number of values sent, so every
receiver's account is a difference of positions: what it lost lies below
`oldest`, what it can still have lies between its position and `sent`. The values
are held newest first, and sending puts one in front. Those behind the first `size`
are not kept any more; they are cleared away once in `size` sends, so that a send
takes the same time whatever the size.
-/

namespace GroundStation

/-- The latest values of a channel, newest first, of which the first `size` are kept, and
how many values it has sent. -/
structure Channel (α : Type) where
  size : Nat
  sent : Nat
  latest : List α

/-- A receiver: the position of the value it is handed next. -/
structure Receiver where
  next : Nat
deriving DecidableEq, Repr

/-- What a receiver finds. -/
inductive Received (α : Type) where
  | value (value : α)
  | lagged (lost : Nat)
  | empty

namespace Channel

variable {α : Type}

/-- The number of slots for a capacity, which counts as at least one and is rounded up to
a power of two. -/
def slots (capacity : Nat) : Nat := (max capacity 1).nextPowerOfTwo

/-- The octets that a slot takes. -/
def slotOctets : Nat := 128

/-- Is there room for a channel of a capacity? -/
def hasRoom (capacity : Nat) : Bool := fitsBlock (slots capacity) slotOctets

/-- An empty channel of a capacity. -/
def new (capacity : Nat) : Channel α := ⟨slots capacity, 0, []⟩

/-- The position of the oldest value kept. -/
def oldest (c : Channel α) : Nat := c.sent - c.size

/-- The values kept, oldest first. -/
def kept (c : Channel α) : List α := (c.latest.take c.size).reverse

/-- Sends a value, which ends the keeping of the oldest one of a full channel. -/
def send (c : Channel α) (value : α) : Channel α :=
  let earlier := if c.sent % c.size = 0 then c.latest.take c.size else c.latest
  { c with sent := c.sent + 1, latest := value :: earlier }

/-- A receiver of everything sent from now on. -/
def subscribe (c : Channel α) : Receiver := ⟨c.sent⟩

/-- What the receiver finds next, and the receiver afterwards. -/
def receive (c : Channel α) (r : Receiver) : Received α × Receiver :=
  if r.next < c.oldest then (.lagged (c.oldest - r.next), ⟨c.oldest⟩)
  else if c.sent ≤ r.next then (.empty, r)
  else match c.latest[c.sent - 1 - r.next]? with
    | some value => (.value value, ⟨r.next + 1⟩)
    | none => (.empty, r)

/-- The values kept for a receiver, oldest first. -/
def available (c : Channel α) (r : Receiver) : List α :=
  (c.latest.take (c.sent - max r.next c.oldest)).reverse

/-- A send keeps the new value and all that were kept but the oldest one of a full
channel. -/
theorem kept_send (c : Channel α) (value : α) :
    (c.send value).kept = ((value :: c.latest).take c.size).reverse := by
  simp only [kept, send]
  split
  · cases h : c.size with
    | zero => rfl
    | succ n => simp [List.take_take]
  · rfl

end Channel

end GroundStation
