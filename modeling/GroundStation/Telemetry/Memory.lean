/-!
# Room for buffers

A buffer is one block of memory, made when the buffer is. Half of what an address can
name is the limit for a block, however much memory there is.
-/

namespace GroundStation

/-- The octets of the largest block of memory. -/
def largestBlock : Nat := Nat.pow 2 63 - 1

/-- Do so many places of so many octets fit into a block? -/
def fitsBlock (places octets : Nat) : Bool := places * octets ≤ largestBlock

end GroundStation
