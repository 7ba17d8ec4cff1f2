import GroundStation.Mavlink.Checksum
import GroundStation.Mavlink.Dialect

/-!
# Frames and datagrams

A frame is a mark, a header of nine octets, a message, a checksum and perhaps a
signature, which is passed over unread. Zeros at the end of a message are not
sent.

A datagram is searched for frames from mark to mark. A mark whose frame has a
wrong checksum is passed over, and the search goes on right after the mark. The
search ends where the octets left are too few for the frame they announce, and at
a frame with a right checksum that holds no message of the dialect that is spoken.
-/

namespace GroundStation.Mavlink

/-- Who sends a message, and its place in the sequence of the sender's messages. -/
structure Header where
  sender : SystemAddress
  sequence : UInt8
deriving DecidableEq, Repr

/-- The octet that begins a frame. -/
def frameMark : UInt8 := 0xFD

/-- The number of octets of a header. -/
def headerSize : Nat := 9

/-- The number of octets of a checksum. -/
def checksumSize : Nat := 2

/-- The number of octets of a signature. -/
def signatureSize : Nat := 13

/-- The flag of a frame that carries a signature. -/
def signedFlag : UInt8 := 1

/-- The octets of a header before a message of a kind and so many octets. -/
def headerOctets (h : Header) (kind : MessageKind) (size : Nat) : List UInt8 :=
  [UInt8.ofNat size, 0, 0, h.sequence, h.sender.system, h.sender.component] ++
    octetsOf 3 kind.id

/-- The checksum of what stands between the mark and the checksum of a frame. -/
def frameChecksum (body : List UInt8) (seed : UInt8) : Nat := (checksum (body ++ [seed])).toNat

/-- The frame of a message. -/
def frameOf (h : Header) (m : Message) : List UInt8 :=
  let payload := trimZeros m.octets
  let body := headerOctets h m.kind payload.length ++ payload
  frameMark :: body ++ octetsOf checksumSize (frameChecksum body m.kind.seed)

/-! ## Reading -/

/-- The header of a frame as it was received. -/
structure ReceivedHeader where
  payloadSize : Nat
  signed : Bool
  header : Header
  messageId : Nat
deriving DecidableEq, Repr

/-- The header at the beginning of the octets after a mark. -/
def ReceivedHeader.ofOctets? : List UInt8 → Option ReceivedHeader
  | size :: incompatible :: _ :: sequence :: system :: component :: a :: b :: c :: _ =>
    some ⟨size.toNat, incompatible &&& signedFlag ≠ 0, ⟨⟨system, component⟩, sequence⟩,
      numberOf [a, b, c]⟩
  | _ => none

namespace ReceivedHeader

/-- The number of octets from the mark up to the checksum. -/
def bodySize (r : ReceivedHeader) : Nat := headerSize + r.payloadSize

/-- The number of octets of the frame after the mark. -/
def frameSize (r : ReceivedHeader) : Nat :=
  r.bodySize + checksumSize + if r.signed then signatureSize else 0

/-- Is the checksum right of the frame that these octets after the mark begin with? -/
def checks (r : ReceivedHeader) (d : Dialect) (octets : List UInt8) : Bool :=
  frameChecksum (octets.take r.bodySize) (d.seed r.messageId) =
    numberOf ((octets.drop r.bodySize).take checksumSize)

/-- The message of the frame that these octets after the mark begin with. -/
def message? (r : ReceivedHeader) (d : Dialect) (octets : List UInt8) : Option Message :=
  d.message? r.messageId ((octets.drop headerSize).take r.payloadSize)

end ReceivedHeader

/-- The messages of a datagram with their headers, in order. -/
def Dialect.messagesOf (d : Dialect) : List UInt8 → List (Header × Message)
  | [] => []
  | octet :: rest =>
    if octet ≠ frameMark then d.messagesOf rest
    else match ReceivedHeader.ofOctets? rest with
      | none => []
      | some r =>
        if rest.length < r.frameSize then []
        else if r.checks d rest then
          match r.message? d rest with
          | some m => (r.header, m) :: d.messagesOf (rest.drop r.frameSize)
          | none => []
        else d.messagesOf rest
termination_by octets => octets.length
decreasing_by all_goals simp only [List.length_drop, List.length_cons]; omega

end GroundStation.Mavlink
