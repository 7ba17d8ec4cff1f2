import GroundStation.Mavlink.Message

/-!
# What else is spoken

The station's own messages are a small part of what is spoken on a network. What the
dialect says of the others decides how a datagram is read all the same: the checksum
of a frame depends on the kind of its message, and a frame that holds no message ends
the search for more.

So a dialect is a parameter of the reading. It adds to the station's kinds of messages
and does not change them.
-/

namespace GroundStation.Mavlink

/-- What a dialect says of the messages that are not the station's: which kind a number
stands for, and what octets say as a message of a kind, if they say anything. -/
structure Dialect where
  kind? : Nat → Option OtherKind
  content? : (kind : OtherKind) → List UInt8 → Option (Vector UInt8 kind.size.toNat)
  number_of_kind? : ∀ {id : Nat} {kind : OtherKind}, kind? id = some kind →
    kind.number.toNat = id

namespace Dialect

/-- The seed of the checksum of a message with a number; it is zero for messages that the
dialect does not have. -/
def seed (d : Dialect) (id : Nat) : UInt8 :=
  match MessageKind.ofId? id with
  | some kind => kind.seed
  | none => ((d.kind? id).map (·.seed)).getD 0

/-- The message with a number that octets stand for. -/
def message? (d : Dialect) (id : Nat) (octets : List UInt8) : Option Message :=
  match MessageKind.ofId? id with
  | some kind => Message.ofOctets? kind octets
  | none => do
    let kind ← d.kind? id
    let content ← d.content? kind octets
    return .other ⟨kind, content⟩

end Dialect

end GroundStation.Mavlink
