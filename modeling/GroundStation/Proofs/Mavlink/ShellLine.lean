import GroundStation.Mavlink.Orders
import GroundStation.Proofs.Mavlink.Datagram

/-!
# Shell lines in pieces

A line for the vehicle's shell is cut into pieces of the size that one message holds, between
octets and not between characters. All pieces but the last are full. Where the text alone fills its
pieces, the line end is a piece of its own. What a piece leaves free in its message is zero. A
frame leaves zeros at the end of its payload out, and they are put back where it is read, also those
that belong to the piece.

## Main results

* `flatten_piecesOf`, `length_of_mem_piecesOf`, `length_of_mem_dropLast_piecesOf`: the pieces.
* `isShellLine_shellMessages`, `length_shellMessages`: the messages of a shell line carry the line,
  and how many they are.
* `messagesOf_frameOf`: messages are read from their frames as they were sent.
-/

namespace GroundStation.Mavlink

/-! ## Pieces -/

section Pieces

variable {size : Nat} (hsize : 0 < size) (octets : List UInt8)

theorem flatten_piecesOf : (piecesOf size hsize octets).flatten = octets := by
  induction octets using piecesOf.induct size hsize with
  | case1 => rw [piecesOf]; rfl
  | case2 first rest ih => rw [piecesOf, List.flatten_cons, ih, List.take_append_drop]

/-- There are as many pieces as it takes. -/
theorem length_piecesOf :
    (piecesOf size hsize octets).length = (octets.length + size - 1) / size := by
  induction octets using piecesOf.induct size hsize with
  | case1 =>
      rw [piecesOf]
      exact (Nat.div_eq_of_lt (by simpa using hsize)).symm
  | case2 first rest ih =>
      rw [piecesOf, List.length_cons, ih, List.length_drop, List.length_cons]
      have hpieces : (rest.length + 1 + size - 1) / size = rest.length / size + 1 := by
        have hsum : rest.length + 1 + size - 1 = rest.length + size := by omega
        rw [hsum, Nat.add_div_right _ hsize]
      rw [hpieces]
      rcases Nat.lt_or_ge rest.length size with hshort | hlong
      · rw [Nat.div_eq_of_lt hshort, Nat.div_eq_of_lt (by omega)]
      · have hrest : rest.length + 1 - size + size - 1 = rest.length := by omega
        rw [hrest]

theorem piecesOf_eq_nil_iff : piecesOf size hsize octets = [] ↔ octets = [] := by
  cases octets with
  | nil => exact iff_of_true (by rw [piecesOf]) rfl
  | cons first rest =>
      rw [piecesOf]
      exact iff_of_false (List.cons_ne_nil _ _) (List.cons_ne_nil _ _)

variable {octets} {piece : List UInt8}

/-- No piece is empty, and none is longer than the size. -/
theorem length_of_mem_piecesOf (h : piece ∈ piecesOf size hsize octets) :
    1 ≤ piece.length ∧ piece.length ≤ size := by
  induction octets using piecesOf.induct size hsize with
  | case1 =>
      rw [piecesOf] at h
      cases h
  | case2 first rest ih =>
      rw [piecesOf] at h
      rcases List.mem_cons.mp h with rfl | hlater
      · rw [List.length_take, List.length_cons]
        omega
      · exact ih hlater

/-- Every piece but the last is full. -/
theorem length_of_mem_dropLast_piecesOf (h : piece ∈ (piecesOf size hsize octets).dropLast) :
    piece.length = size := by
  induction octets using piecesOf.induct size hsize with
  | case1 =>
      rw [piecesOf] at h
      cases h
  | case2 first rest ih =>
      rw [piecesOf] at h
      by_cases hlast : (first :: rest).drop size = []
      · rw [hlast, piecesOf] at h
        cases h
      · rw [List.dropLast_cons_of_ne_nil (mt (piecesOf_eq_nil_iff hsize _).mp hlast)] at h
        rcases List.mem_cons.mp h with rfl | hlater
        · rw [List.drop_eq_nil_iff, Nat.not_le] at hlast
          exact (List.length_take ..).trans (Nat.min_eq_left (Nat.le_of_lt hlast))
        · exact ih hlater

end Pieces

/-! ## Messages -/

/-- The octets that a message of the serial port carries: as many of its data as it counts. -/
def SerialControl.carried (s : SerialControl) : List UInt8 := s.data.toList.take s.count.toNat

/-- **A piece of a shell line**: a message for the shell that counts some of its octets and
leaves the others zero. -/
structure SerialControl.IsShellPiece (s : SerialControl) : Prop where
  device : s.device = .shell
  count_pos : 1 ≤ s.count.toNat
  count_le : s.count.toNat ≤ serialCapacity
  padding : ∀ (i : Nat) (hi : i < serialCapacity), s.count.toNat ≤ i → s.data[i] = 0

/-- **Messages that carry a line to the shell.** Every message but the last is full. -/
def IsShellLine (line : List UInt8) (messages : List Message) : Prop :=
  ∃ pieces : List SerialControl, messages = pieces.map .serialControl ∧
    (pieces.map (·.carried)).flatten = line ∧ (∀ s ∈ pieces, s.IsShellPiece) ∧
    ∀ s ∈ pieces.dropLast, s.count.toNat = serialCapacity

/-- What the message of a piece says. -/
def SerialControl.ofPiece (octets : List UInt8) : SerialControl where
  baudrate := 0
  timeout := 0
  device := .shell
  flags := shellFlags
  count := UInt8.ofNat (min octets.length serialCapacity)
  data := Vector.ofFn fun i => octets.getD i.val 0

theorem shellPiece_eq (octets : List UInt8) :
    shellPiece octets = .serialControl (.ofPiece octets) := rfl

section Piece

variable {octets : List UInt8} (hle : octets.length ≤ serialCapacity)

include hle

theorem count_ofPiece : (SerialControl.ofPiece octets).count.toNat = octets.length := by
  have hbyte : octets.length < 256 := Nat.lt_of_le_of_lt hle (by decide)
  rw [SerialControl.ofPiece, Nat.min_eq_left hle, UInt8.toNat_ofNat_of_lt' hbyte]

/-- The message of a piece carries it. -/
theorem carried_ofPiece : (SerialControl.ofPiece octets).carried = octets := by
  rw [SerialControl.carried, count_ofPiece hle]
  apply List.ext_getElem
  · rw [List.length_take, Vector.length_toList, Nat.min_eq_left hle]
  · intro i hi hi'
    simp [SerialControl.ofPiece, hi']

theorem isShellPiece_ofPiece (hpos : 1 ≤ octets.length) :
    (SerialControl.ofPiece octets).IsShellPiece where
  device := rfl
  count_pos := count_ofPiece hle ▸ hpos
  count_le := count_ofPiece hle ▸ hle
  padding i hi hpast := by
    rw [count_ofPiece hle] at hpast
    simp [SerialControl.ofPiece, hpast]

end Piece

/-- **The messages of a shell line carry the line**: the octets of the text and one line end. -/
theorem isShellLine_shellMessages (text : String) :
    IsShellLine (shellLine text) (shellMessages text) := by
  have hcapacity : 0 < serialCapacity := by decide
  let pieces := piecesOf serialCapacity hcapacity (shellLine text)
  have hlength : ∀ p ∈ pieces, 1 ≤ p.length ∧ p.length ≤ serialCapacity :=
    fun p hp => length_of_mem_piecesOf hcapacity hp
  refine ⟨pieces.map .ofPiece, ?messages, ?line, ?each, ?full⟩
  case messages =>
    rw [List.map_map]
    exact List.map_congr_left fun p _ => shellPiece_eq p
  case line =>
    have hcarried : (pieces.map SerialControl.ofPiece).map (·.carried) = pieces.map id := by
      rw [List.map_map]
      exact List.map_congr_left fun p hp => carried_ofPiece (hlength p hp).2
    rw [hcarried, List.map_id]
    exact flatten_piecesOf hcapacity _
  case each =>
    intro s hs
    obtain ⟨p, hp, rfl⟩ := List.mem_map.mp hs
    exact isShellPiece_ofPiece (hlength p hp).2 (hlength p hp).1
  case full =>
    intro s hs
    rw [← List.map_dropLast] at hs
    obtain ⟨p, hp, rfl⟩ := List.mem_map.mp hs
    rw [count_ofPiece (hlength p (List.mem_of_mem_dropLast hp)).2]
    exact length_of_mem_dropLast_piecesOf hcapacity hp

/-- The line end is in a piece of its own if the text fills its pieces. -/
theorem length_shellMessages (text : String) :
    (shellMessages text).length = text.toUTF8.toList.length / serialCapacity + 1 := by
  have hcapacity : 0 < serialCapacity := by decide
  rw [shellMessages, List.length_map, shellPieces, length_piecesOf, shellLine, List.length_append]
  exact Nat.add_div_right _ hcapacity

/-! ## What is read -/

/-- Frames of the station's messages are read as the messages that they were made of. -/
theorem messagesOf_frameOf (d : Dialect) {sent : List (Header × Message)}
    (hown : ∀ s ∈ sent, s.2.kind.isOwn = true) :
    d.messagesOf (sent.flatMap fun s => frameOf s.1 s.2) = sent := by
  have hframes : (sent.flatMap fun s => frameOf s.1 s.2) =
      (sent.map fun s => PlainFrame.ofMessage s.1 s.2).flatMap (·.octets d) := by
    rw [List.flatMap_map]
    exact List.flatMap_congr fun s hs => frameOf_eq d s.1 (hown s hs)
  rw [hframes, messagesOf_flatMap, readable_ofMessage d hown]

end GroundStation.Mavlink
