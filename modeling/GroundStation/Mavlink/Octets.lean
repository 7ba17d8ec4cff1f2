/-!
# Numbers as octets

Numbers travel with their least significant octet first. A message is a row of
numbers of fixed widths (`Layout`). Reading a row never fails: octets that are
missing at the end count as zero, and octets beyond the row are not looked at.
-/

namespace GroundStation.Mavlink

/-- The `width` least significant octets of a number, the least significant first. -/
def octetsOf : Nat → Nat → List UInt8
  | 0, _ => []
  | width + 1, n => UInt8.ofNat n :: octetsOf width (n / 256)

/-- The number that octets stand for, the least significant first. -/
def numberOf : List UInt8 → Nat
  | [] => 0
  | octet :: rest => octet.toNat + 256 * numberOf rest

/-- The widths in octets of a row of numbers. -/
abbrev Layout := List Nat

namespace Layout

/-- The octets of a row of numbers. -/
def write : Layout → List Nat → List UInt8
  | width :: widths, n :: ns => octetsOf width n ++ write widths ns
  | _, _ => []

/-- The row of numbers that octets stand for. -/
def read : Layout → List UInt8 → List Nat
  | [], _ => []
  | width :: widths, octets =>
    numberOf (octets.take width) :: read widths (octets.drop width)

end Layout

/-- Octets without the zeros at the end, but with at least the first octet. -/
def trimZeros : List UInt8 → List UInt8
  | [] => []
  | octet :: rest => octet :: (rest.reverse.dropWhile (· == 0)).reverse

end GroundStation.Mavlink
