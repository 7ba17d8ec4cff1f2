/-!
# Text of which parts may be no text

UTF-8 text with errors in it: each octet sequence that cannot go on to a character
becomes one replacement character, and reading goes on with the octet that could
not follow.

`utf8Ranges` says for the first octet of a character of several octets which
octets may come second; those after it are always between `80` and `BF`.
-/

namespace GroundStation

/-- The character in place of what is no text. -/
def replacementChar : Char := '\ufffd'

/-- The continuation octets after a first octet: how many there are, and the limits of
the first of them. -/
def utf8Ranges (first : UInt8) : Option (Nat × UInt8 × UInt8) :=
  if 0xC2 ≤ first ∧ first ≤ 0xDF then some (1, 0x80, 0xBF)
  else if first = 0xE0 then some (2, 0xA0, 0xBF)
  else if first = 0xED then some (2, 0x80, 0x9F)
  else if 0xE1 ≤ first ∧ first ≤ 0xEF then some (2, 0x80, 0xBF)
  else if first = 0xF0 then some (3, 0x90, 0xBF)
  else if 0xF1 ≤ first ∧ first ≤ 0xF3 then some (3, 0x80, 0xBF)
  else if first = 0xF4 then some (3, 0x80, 0x8F)
  else none

/-- The bits of the code point in the first of so many octets after the first one. -/
def utf8FirstBits (first : UInt8) (continuation : Nat) : Nat :=
  first.toNat % Nat.pow 2 (6 - continuation)

/-- A character that octets have begun: its code point so far, how many octets are
missing, and the limits of the next one. -/
structure PartialChar where
  bits : Nat
  missing : Nat
  low : UInt8
  high : UInt8

/-- Begins a character, or is one, or is none. -/
def beginChar (octet : UInt8) : Except PartialChar Char :=
  if octet < 0x80 then .ok (Char.ofNat octet.toNat)
  else match utf8Ranges octet with
    | some (missing, low, high) => .error ⟨utf8FirstBits octet missing, missing, low, high⟩
    | none => .ok replacementChar

/-- The characters of octets, after the octets of a character that was begun. -/
def lossyChars : Option PartialChar → List UInt8 → List Char
  | none, [] => []
  | some _, [] => [replacementChar]
  | none, octet :: rest =>
    match beginChar octet with
    | .ok c => c :: lossyChars none rest
    | .error begun => lossyChars (some begun) rest
  | some begun, octet :: rest =>
    if begun.low ≤ octet ∧ octet ≤ begun.high then
      let bits := begun.bits * 64 + octet.toNat % 64
      if begun.missing ≤ 1 then Char.ofNat bits :: lossyChars none rest
      else lossyChars (some ⟨bits, begun.missing - 1, 0x80, 0xBF⟩) rest
    else
      replacementChar :: match beginChar octet with
        | .ok c => c :: lossyChars none rest
        | .error begun => lossyChars (some begun) rest

/-- The text of octets. -/
def lossyText (octets : List UInt8) : String := String.ofList (lossyChars none octets)

end GroundStation
