import GroundStation.Mavlink.Message
import Mathlib

/-!
# Messages survive the wire

A message is written as a row of numbers, each in as many octets as its field is wide, and the
zeros at the end of the row are not sent. Reading takes the same row in the same widths, and
counts octets that are missing as zero. So what is read is what was written as soon as every
number is small enough for its width (`Layout.Fits`), and the message is the same one as soon
as each field can be told from its number. The first holds of every message, the second of
every message that the station sends or understands (`MessageKind.isOwn`).

That a single-precision number is the one with its bits is a fact that only Mathlib as a whole
brings along.

## Main results

* `Layout.read_write`: a row that fits its layout is read as it was written.
* `Layout.read_trimZeros`: the zeros that are not sent are not missed.
* `Message.ofNumbers?_numbers`: a message of the station is the one with its numbers.
* `Message.ofOctets?_trimZeros`: it is read from the octets that are sent of it.
-/

namespace GroundStation.Mavlink

/-! ## Numbers in octets -/

@[simp] theorem length_octetsOf (width n : Nat) : (octetsOf width n).length = width := by
  induction width generalizing n with
  | zero => rfl
  | succ width ih => rw [octetsOf, List.length_cons, ih]

/-- A number is read back if it has no more digits than octets. -/
theorem numberOf_octetsOf {width n : Nat} (h : n < Nat.pow 256 width) :
    numberOf (octetsOf width n) = n := by
  induction width generalizing n with
  | zero => exact (Nat.lt_one_iff.mp h).symm
  | succ width ih =>
    have hrest : n / 256 < Nat.pow 256 width := Nat.div_lt_of_lt_mul (Nat.mul_comm .. ▸ h)
    rw [octetsOf, numberOf, ih hrest, UInt8.toNat_ofNat']
    exact Nat.mod_add_div n 256

/-- Zeros behind the octets do not count. -/
theorem numberOf_append_zeros (octets : List UInt8) (k : Nat) :
    numberOf (octets ++ List.replicate k 0) = numberOf octets := by
  induction octets with
  | nil =>
    induction k with
    | zero => rfl
    | succ k ih =>
      have hzero : numberOf (List.replicate k 0) = 0 := ih
      show numberOf (0 :: List.replicate k 0) = 0
      rw [numberOf, hzero]
      rfl
  | cons octet rest ih => rw [List.cons_append, numberOf, numberOf, ih]

/-! ## Rows of numbers -/

namespace Layout

/-- Are there as many numbers as widths, and is each one small enough for its width? -/
def Fits : Layout → List Nat → Prop
  | [], [] => True
  | width :: widths, n :: ns => n < Nat.pow 256 width ∧ Fits widths ns
  | _, _ => False

/-- The number of octets of a row. -/
def size : Layout → Nat
  | [] => 0
  | width :: widths => width + size widths

theorem length_write {layout : Layout} {ns : List Nat} (h : layout.Fits ns) :
    (layout.write ns).length = layout.size := by
  induction layout, ns using Fits.induct with
  | case1 => rfl
  | case2 width widths n ns ih =>
    rw [write, List.length_append, length_octetsOf, ih h.2]
    rfl
  | case3 layout ns hnil hcons => exact (Fits.eq_3 layout ns hnil hcons ▸ h).elim

/-- **A row that fits its layout is read as it was written.** -/
theorem read_write {layout : Layout} {ns : List Nat} (h : layout.Fits ns) :
    layout.read (layout.write ns) = ns := by
  induction layout, ns using Fits.induct with
  | case1 => rfl
  | case2 width widths n ns ih =>
    have hlength := length_octetsOf width n
    rw [write, read, List.take_left' hlength, List.drop_left' hlength, numberOf_octetsOf h.1,
      ih h.2]
  | case3 layout ns hnil hcons => exact (Fits.eq_3 layout ns hnil hcons ▸ h).elim

/-- Zeros behind a row do not change it. -/
theorem read_append_zeros (layout : Layout) (octets : List UInt8) (k : Nat) :
    layout.read (octets ++ List.replicate k 0) = layout.read octets := by
  induction layout generalizing octets k with
  | nil => rfl
  | cons width widths ih =>
    rw [read, read, List.take_append, List.drop_append, List.take_replicate,
      List.drop_replicate, numberOf_append_zeros, ih]

theorem size_replicate (n : Nat) : size (List.replicate n 1) = n := by
  induction n with
  | zero => rfl
  | succ n ih => rw [List.replicate_succ, size, ih, Nat.add_comm]

theorem fits_octets (octets : List UInt8) :
    Fits (List.replicate octets.length 1) (octets.map UInt8.toNat) := by
  induction octets with
  | nil => exact True.intro
  | cons octet rest ih => exact ⟨octet.toNat_lt, ih⟩

end Layout

/-! ## Zeros at the end -/

/-- What is cut off the end are zeros. -/
theorem trimZeros_append (octets : List UInt8) :
    ∃ k, trimZeros octets ++ List.replicate k 0 = octets := by
  cases octets with
  | nil => exact ⟨0, rfl⟩
  | cons octet rest =>
    let cut := rest.reverse.takeWhile (· == 0)
    have hcut : cut = List.replicate cut.length 0 :=
      List.eq_replicate_of_mem fun o ho => eq_of_beq (List.all_eq_true.mp List.all_takeWhile o ho)
    refine ⟨cut.length, ?_⟩
    rw [trimZeros, List.cons_append, ← List.reverse_replicate, ← hcut, ← List.reverse_append,
      List.takeWhile_append_dropWhile, List.reverse_reverse]

/-- Zeros that are not sent are not missed. -/
theorem Layout.read_trimZeros (layout : Layout) (octets : List UInt8) :
    layout.read (trimZeros octets) = layout.read octets := by
  obtain ⟨k, hk⟩ := trimZeros_append octets
  rw [← read_append_zeros layout (trimZeros octets) k, hk]

theorem length_trimZeros_le (octets : List UInt8) :
    (trimZeros octets).length ≤ octets.length := by
  obtain ⟨k, hk⟩ := trimZeros_append octets
  calc (trimZeros octets).length
    _ ≤ (trimZeros octets ++ List.replicate k 0).length := by simp
    _ = octets.length := by rw [hk]

/-! ## Fields -/

section Fields

theorem finOf?_val {size : Nat} (i : Fin size) : finOf? size i.val = some i := by
  rw [finOf?, dif_pos i.isLt]

theorem CommandId.ofNat?_number (c : CommandId) : CommandId.ofNat? c.number.toNat = some c := by
  have hnumber : UInt16.ofNat c.number.toNat = c.number := UInt16.ofNat_toNat
  rw [CommandId.ofNat?, dif_pos (by rw [hnumber]; exact c.defined)]
  congr

theorem SerialDevice.ofNat?_number (d : SerialDevice) :
    SerialDevice.ofNat? d.number.toNat = some d := by
  have hnumber : UInt8.ofNat d.number.toNat = d.number := UInt8.ofNat_toNat
  rw [SerialDevice.ofNat?, dif_pos (by rw [hnumber]; exact d.defined)]
  congr

theorem singleOf_singleNumber (x : Float32) : singleOf (singleNumber x) = x := by
  rw [singleOf, singleNumber, UInt32.ofNat_toNat, Float32.ofBits_toBits]

theorem int32Of_toNat (x : Int32) : int32Of x.toUInt32.toNat = x := by
  rw [int32Of, UInt32.ofNat_toNat]
  rfl

theorem int16Of_toNat (x : Int16) : int16Of x.toUInt16.toNat = x := by
  rw [int16Of, UInt16.ofNat_toNat]
  rfl

theorem octetField_toNat {size : Nat} (v : Vector UInt8 size) :
    octetField size (v.toList.map UInt8.toNat) = v := by
  ext i hi
  simp [octetField, List.getD_eq_getElem?_getD]

/-- Seven numbers, by name. -/
theorem vector_seven {α : Type} (v : Vector α 7) :
    ∃ a b c d e f g, v = #v[a, b, c, d, e, f, g] := by
  refine ⟨v[0], v[1], v[2], v[3], v[4], v[5], v[6], ?_⟩
  ext i hi
  match i, hi with
  | 0, _ | 1, _ | 2, _ | 3, _ | 4, _ | 5, _ | 6, _ => rfl

theorem uint8_fits (x : UInt8) : x.toNat < Nat.pow 256 1 := x.toNat_lt

theorem uint16_fits (x : UInt16) : x.toNat < Nat.pow 256 2 := x.toNat_lt

theorem uint32_fits (x : UInt32) : x.toNat < Nat.pow 256 4 := x.toNat_lt

theorem uint64_fits (x : UInt64) : x.toNat < Nat.pow 256 8 := x.toNat_lt

theorem single_fits (x : Float32) : singleNumber x < Nat.pow 256 4 := uint32_fits x.toBits

theorem fin_fits {size : Nat} (i : Fin size) (h : size ≤ Nat.pow 256 1 := by decide) :
    i.val < Nat.pow 256 1 := Nat.lt_of_lt_of_le i.isLt h

theorem flags_fit {width octets : Nat} (x : BitVec width)
    (h : Nat.pow 2 width ≤ Nat.pow 256 octets := by decide) : x.toNat < Nat.pow 256 octets :=
  Nat.lt_of_lt_of_le x.isLt h

end Fields

/-! ## Messages -/

namespace Message

/-- **A message of the station is the one with its numbers.** -/
theorem ofNumbers?_numbers {m : Message} (hown : m.kind.isOwn = true) :
    ofNumbers? m.kind m.numbers = some m := by
  cases m with
  | heartbeat m => simp [kind, numbers, ofNumbers?, finOf?_val]
  | attitude m => simp [kind, numbers, ofNumbers?, singleOf_singleNumber]
  | globalPosition m => simp [kind, numbers, ofNumbers?, int32Of_toNat, int16Of_toNat]
  | commandInt m =>
    simp [kind, numbers, ofNumbers?, singleOf_singleNumber, int32Of_toNat, finOf?_val,
      CommandId.ofNat?_number]
  | commandLong m =>
    obtain ⟨params, command, target, confirmation⟩ := m
    obtain ⟨a, b, c, d, e, f, g, rfl⟩ := vector_seven params
    simp [kind, numbers, ofNumbers?, singleOf_singleNumber, CommandId.ofNat?_number]
  | commandAck m => simp [kind, numbers, ofNumbers?, finOf?_val, CommandId.ofNat?_number]
  | setPoint m =>
    simp [kind, numbers, ofNumbers?, singleOf_singleNumber, finOf?_val]
  | highresImu m => simp [kind, numbers, ofNumbers?, singleOf_singleNumber]
  | serialControl m =>
    simp [kind, numbers, ofNumbers?, SerialDevice.ofNat?_number, octetField_toNat]
  | extendedState m => simp [kind, numbers, ofNumbers?, finOf?_val]
  | statusText m => simp [kind, numbers, ofNumbers?, finOf?_val, octetField_toNat]
  | other m => cases hown

/-- The numbers of a message are small enough for their fields. -/
theorem fits_numbers (m : Message) : m.kind.layout.Fits m.numbers := by
  cases m with
  | heartbeat m =>
    exact ⟨uint32_fits _, fin_fits _, fin_fits _, uint8_fits _, fin_fits _, uint8_fits _, trivial⟩
  | attitude m =>
    exact ⟨uint32_fits _, single_fits _, single_fits _, single_fits _, single_fits _,
      single_fits _, single_fits _, trivial⟩
  | globalPosition m =>
    exact ⟨uint32_fits _, uint32_fits _, uint32_fits _, uint32_fits _, uint32_fits _,
      uint16_fits _, uint16_fits _, uint16_fits _, uint16_fits _, trivial⟩
  | commandInt m =>
    exact ⟨single_fits _, single_fits _, single_fits _, single_fits _, uint32_fits _,
      uint32_fits _, single_fits _, uint16_fits _, uint8_fits _, uint8_fits _, fin_fits _,
      uint8_fits _, uint8_fits _, trivial⟩
  | commandLong m =>
    obtain ⟨params, command, target, confirmation⟩ := m
    obtain ⟨a, b, c, d, e, f, g, rfl⟩ := vector_seven params
    exact ⟨single_fits _, single_fits _, single_fits _, single_fits _, single_fits _,
      single_fits _, single_fits _, uint16_fits _, uint8_fits _, uint8_fits _, uint8_fits _,
      trivial⟩
  | commandAck m => exact ⟨uint16_fits _, fin_fits _, trivial⟩
  | setPoint m =>
    exact ⟨uint32_fits _, single_fits _, single_fits _, single_fits _, single_fits _,
      single_fits _, single_fits _, single_fits _, single_fits _, single_fits _, single_fits _,
      single_fits _, flags_fit _, uint8_fits _, uint8_fits _, fin_fits _, trivial⟩
  | highresImu m =>
    exact ⟨uint64_fits _, single_fits _, single_fits _, single_fits _, single_fits _,
      single_fits _, single_fits _, single_fits _, single_fits _, single_fits _, single_fits _,
      single_fits _, single_fits _, single_fits _, flags_fit _, trivial⟩
  | serialControl m =>
    have hdata := Layout.fits_octets m.data.toList
    rw [Vector.length_toList] at hdata
    exact ⟨uint32_fits _, uint16_fits _, uint8_fits _, flags_fit _, uint8_fits _, hdata⟩
  | extendedState m => exact ⟨fin_fits _, fin_fits _, trivial⟩
  | statusText m =>
    have htext := Layout.fits_octets m.text.toList
    rw [Vector.length_toList] at htext
    exact ⟨fin_fits _, htext⟩
  | other m =>
    have hcontent := Layout.fits_octets m.content.toList
    rw [Vector.length_toList] at hcontent
    exact hcontent

/-- The octets of a message are as many as its kind has. -/
theorem length_octets (m : Message) : m.octets.length = m.kind.layout.size :=
  Layout.length_write m.fits_numbers

/-- **A message of the station is read from the octets that are sent of it**, the zeros at its
end left out. -/
theorem ofOctets?_trimZeros {m : Message} (hown : m.kind.isOwn = true) :
    ofOctets? m.kind (trimZeros m.octets) = some m := by
  rw [ofOctets?, Layout.read_trimZeros, octets, Layout.read_write m.fits_numbers,
    ofNumbers?_numbers hown]

/-- The messages of a kind are short enough for a frame. -/
theorem size_lt (kind : MessageKind) : kind.layout.size < 256 := by
  cases kind with
  | other kind =>
    rw [MessageKind.layout, Layout.size_replicate]
    exact kind.size.toNat_lt
  | _ => decide

/-- What is sent of a message has a length that fits in one octet. -/
theorem length_trimZeros_octets (m : Message) : (trimZeros m.octets).length < 256 := by
  have hsize := size_lt m.kind
  have hlength := m.length_octets
  have hle := length_trimZeros_le m.octets
  omega

end Message

end GroundStation.Mavlink
