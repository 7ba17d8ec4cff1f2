import GroundStation.Data.Hexadecimal

/-!
# Hosts and ports as written

A host is written by its address or by a name, and a port stands behind the last
colon. An address has 32 bits or 128.

One of 32 bits is written loosely: one to four numbers in base ten, eight or
sixteen with points between them, of which the last fills all the bits that the
others leave. Inside another address it is written strictly: four numbers in base
ten without needless zeros.

One of 128 bits is written as eight groups of hexadecimal digits with colons between
them. Two colons in a row stand for one or more groups of zeros, and a strict
address of 32 bits can stand for the last two groups. The number of a network
interface can follow, divided by a percent sign. Brackets keep such an address
apart from its port; without them the last colon still begins the port.
-/

namespace GroundStation

/-- The address of a host. The interface of a wide address is zero if none is meant. -/
inductive HostAddress where
  | v4 (bits : BitVec 32)
  | v6 (bits : BitVec 128) (interface : UInt32)
deriving DecidableEq, Repr

/-- A host as written. -/
inductive Host where
  | address (address : HostAddress)
  | name (name : String)
deriving DecidableEq, Repr

/-- A host and a port as written. -/
structure HostPort where
  host : Host
  port : UInt16
deriving DecidableEq, Repr

/-- Why a text gives no endpoint. -/
inductive EndpointError where
  | malformed
  | port
  | unknownHost
  | unavailable
deriving DecidableEq, Repr

/-- The text of an endpoint error. -/
def EndpointError.message : EndpointError → String
  | .malformed => "invalid socket address"
  | .port => "invalid port value"
  | .unknownHost => "failed to lookup address information: Name or service not known"
  | .unavailable => "Cannot assign requested address (os error 99)"

/-! ## Numbers -/

/-- The pieces of a text between separators, of which there is one more than separators. -/
def piecesAt (separator : Char) : List Char → List (List Char)
  | [] => [[]]
  | c :: rest =>
    match piecesAt separator rest with
    | piece :: later => if c = separator then [] :: piece :: later else (c :: piece) :: later
    | [] => []

/-- A number of one or more digits in a base up to sixteen. -/
def numberIn? (base : Nat) (cs : List Char) : Option Nat :=
  if cs.isEmpty then none
  else cs.foldl (fun n c => do
    let digit ← hexDigit? c
    if digit < base then return base * (← n) + digit else none) (some 0)

/-- A number in base sixteen after `0x`, in base eight after a zero, and else in base ten. -/
def looseNumber? : List Char → Option Nat
  | '0' :: 'x' :: digits | '0' :: 'X' :: digits => numberIn? 16 digits
  | '0' :: digit :: digits => numberIn? 8 (digit :: digits)
  | digits => numberIn? 10 digits

/-- A number below 256 in base ten without needless zeros. -/
def strictNumber? : List Char → Option Nat
  | ['0'] => some 0
  | '0' :: _ => none
  | digits => (numberIn? 10 digits).filter (· < 256)

namespace HostAddress

/-! ## Addresses of 32 bits -/

/-- Fills the bits left with numbers: eight bits with each but the last, and with the last
one all the rest. -/
def fill? (left : Nat) : List Nat → Option Nat
  | [] => none
  | [n] => if n < Nat.pow 2 left then some n else none
  | n :: rest =>
    if n < 256 ∧ 8 < left then (fill? (left - 8) rest).map (n * Nat.pow 2 (left - 8) + ·) else none

/-- An address of 32 bits in loose writing. -/
def loose? (cs : List Char) : Option (BitVec 32) := do
  let numbers ← (piecesAt '.' cs).mapM looseNumber?
  return .ofNat 32 (← fill? 32 numbers)

/-- An address of 32 bits in strict writing. -/
def strict? (cs : List Char) : Option (BitVec 32) := do
  let numbers ← (piecesAt '.' cs).mapM strictNumber?
  if numbers.length = 4 then return .ofNat 32 (← fill? 32 numbers) else none

/-! ## Addresses of 128 bits -/

/-- A group: one to four hexadecimal digits. -/
def group? (cs : List Char) : Option Nat := if cs.length ≤ 4 then numberIn? 16 cs else none

/-- Groups, of which the last two can be an address of 32 bits. -/
def groups? : List (List Char) → Option (List Nat)
  | [] => some []
  | [last] =>
    match strict? last with
    | some bits => some [bits.toNat / 65536, bits.toNat % 65536]
    | none => (group? last).map fun group => [group]
  | piece :: rest => do return (← group? piece) :: (← groups? rest)

/-- Divides a text at the first two colons in a row. -/
def splitGap? : List Char → Option (List Char × List Char)
  | [] => none
  | ':' :: ':' :: rest => some ([], rest)
  | c :: rest => (splitGap? rest).map fun (before, after) => (c :: before, after)

/-- The pieces of one side of two colons in a row, which can be empty. -/
def sidePieces (cs : List Char) : List (List Char) := if cs.isEmpty then [] else piecesAt ':' cs

/-- The address of eight groups, the highest first. -/
def ofGroups (groups : List Nat) : BitVec 128 :=
  .ofNat 128 (groups.foldl (fun n group => 65536 * n + group) 0)

/-- An address of 128 bits. -/
def wide? (cs : List Char) : Option (BitVec 128) :=
  match splitGap? cs with
  | none => do
    let groups ← groups? (piecesAt ':' cs)
    if groups.length = 8 then return ofGroups groups else none
  | some (before, after) => do
    let high ← (sidePieces before).mapM group?
    let low ← groups? (sidePieces after)
    if high.length + low.length < 8 then
      return ofGroups (high ++ List.replicate (8 - high.length - low.length) 0 ++ low)
    else none

/-- An address of 128 bits with or without an interface. -/
def scoped? (cs : List Char) : Option HostAddress := do
  let bits ← wide? (cs.takeWhile (· ≠ '%'))
  match cs.dropWhile (· ≠ '%') with
  | [] => return .v6 bits 0
  | _ :: digits =>
    let interface ← numberIn? 10 digits
    if interface < Nat.pow 2 32 then return .v6 bits (.ofNat interface) else none

/-- An address in one of its writings. -/
def read? (cs : List Char) : Option HostAddress :=
  match loose? cs with
  | some bits => some (.v4 bits)
  | none => scoped? cs

end HostAddress

/-! ## Hosts and ports -/

/-- A host: its address, or else its name. -/
def Host.ofChars (cs : List Char) : Host :=
  match HostAddress.read? cs with
  | some found => .address found
  | none => .name (String.ofList cs)

namespace HostPort

/-- A port: a number below `2 ^ 16`. -/
def port? (cs : List Char) : Option UInt16 :=
  (numberIn? 10 cs).bind fun n => if n < Nat.pow 2 16 then some (.ofNat n) else none

/-- A port with or without a plus sign. -/
def signedPort? : List Char → Option UInt16
  | '+' :: digits => port? digits
  | digits => port? digits

/-- An address of 128 bits in brackets, and a port. -/
def bracketed? : List Char → Option HostPort
  | '[' :: rest =>
    match rest.dropWhile (· ≠ ']') with
    | ']' :: ':' :: digits => do
      return ⟨.address (← HostAddress.scoped? (rest.takeWhile (· ≠ ']'))), ← port? digits⟩
    | _ => none
  | _ => none

/-- A host and a port with the last colon between them. -/
def divided (cs : List Char) : Except EndpointError HostPort :=
  let backwards := cs.reverse
  match backwards.dropWhile (· ≠ ':') with
  | [] => .error .malformed
  | _ :: host =>
    match signedPort? (backwards.takeWhile (· ≠ ':')).reverse with
    | some port => .ok ⟨.ofChars host.reverse, port⟩
    | none => .error .port

/-- The host and the port of a text. -/
def read (text : String) : Except EndpointError HostPort :=
  match bracketed? text.toList with
  | some found => .ok found
  | none => divided text.toList

end HostPort

end GroundStation
