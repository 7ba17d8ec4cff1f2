/-!
# The frame checksum

Frames carry the X.25 checksum: a remainder of sixteen bits that takes in octets
with their least significant bit first. The definition goes bit by bit.
-/

namespace GroundStation.Mavlink

/-- The checksum's polynomial with its bits reversed. -/
def checksumPolynomial : UInt16 := 0x8408

/-- Shifts one bit out of the remainder. -/
def checksumBit (crc : UInt16) : UInt16 :=
  if crc &&& 1 = 0 then crc >>> 1 else (crc >>> 1) ^^^ checksumPolynomial

/-- Shifts so many bits out of the remainder. -/
def checksumBits : Nat → UInt16 → UInt16
  | 0, crc => crc
  | bits + 1, crc => checksumBits bits (checksumBit crc)

/-- Takes one octet into the remainder. -/
def checksumStep (crc : UInt16) (octet : UInt8) : UInt16 :=
  checksumBits 8 (crc ^^^ octet.toUInt16)

/-- The checksum of octets. -/
def checksum (octets : List UInt8) : UInt16 := octets.foldl checksumStep 0xFFFF

end GroundStation.Mavlink
