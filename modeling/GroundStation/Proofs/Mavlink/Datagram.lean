import GroundStation.Mavlink.Common
import GroundStation.Proofs.Mavlink.Payload

/-!
# What is read from a datagram

A frame without a signature and with a right checksum (`PlainFrame`) is given by its fields. Its
message may be any, of the station's kinds or of another kind of the dialect, or none at all.
Wherever the frame stands in a datagram, the search that reaches its mark takes exactly the frame:
it yields the frame's message and goes on behind it, or it ends, if the frame holds no message of
the dialect. Octets without a mark are passed over.

So a datagram of such frames, with anything but marks between them, yields the messages up to
the first frame that holds none. The frames behind that one are lost, although each can be
found and most can be read. All this holds in every dialect.

## Main results

* `messagesOf_append_of_no_mark`, `messagesOf_frame`: octets without a mark, and one frame.
* `messagesOf_woven`: frames with anything but marks between them.
* `messagesOf_frames`: what a datagram of frames yields, and when that is all there is to read.
* `acceptance_lost_behind`: an acknowledgement that is lost behind a heartbeat.
-/

namespace GroundStation.Mavlink

variable {d : Dialect}

/-! ## Kinds by their numbers -/

theorem MessageKind.id_lt (kind : MessageKind) : kind.id < Nat.pow 256 3 := by
  cases kind with
  | other kind => exact kind.number.isLt
  | _ => decide

theorem MessageKind.ofId?_id {kind : MessageKind} (hown : kind.isOwn = true) :
    MessageKind.ofId? kind.id = some kind := by
  cases kind with
  | other kind => cases hown
  | _ => rfl

theorem Dialect.seed_id {kind : MessageKind} (hown : kind.isOwn = true) :
    d.seed kind.id = kind.seed := by
  rw [seed, MessageKind.ofId?_id hown]

theorem Dialect.message?_id {kind : MessageKind} (hown : kind.isOwn = true)
    (octets : List UInt8) : d.message? kind.id octets = Message.ofOctets? kind octets := by
  rw [message?, MessageKind.ofId?_id hown]

theorem Message.kind_of_ofNumbers? {kind : MessageKind} {ns : List Nat} {m : Message}
    (h : ofNumbers? kind ns = some m) : m.kind = kind := by
  unfold ofNumbers? at h
  split at h
  all_goals
    simp only [Option.bind_eq_bind, Option.bind_eq_some_iff, Option.pure_def, Option.some.injEq,
      reduceCtorEq] at h
  all_goals grind [Message.kind]

/-- **What is read bears the number that it was read under.** -/
theorem Dialect.id_of_message? {id : Nat} {octets : List UInt8} {m : Message}
    (h : d.message? id octets = some m) : m.kind.id = id := by
  unfold message? at h
  split at h
  · rename_i kind hkind
    rw [Message.kind_of_ofNumbers? h]
    have hid := List.find?_some hkind
    exact eq_of_beq hid
  · obtain ⟨kind, hkind, hcontent⟩ := Option.bind_eq_some_iff.mp h
    obtain ⟨content, -, hm⟩ := Option.bind_eq_some_iff.mp hcontent
    cases hm
    exact d.number_of_kind? hkind

/-! ## Frames by their fields -/

/-- A frame without a signature whose checksum is right. Flags of other features than the
signature are free, and so is the kind of message. -/
structure PlainFrame where
  incompatible : UInt8
  compatible : UInt8
  header : Header
  messageId : Nat
  payload : List UInt8
  unsigned : incompatible &&& signedFlag = 0
  messageId_lt : messageId < Nat.pow 256 3
  length_lt : payload.length < 256

namespace PlainFrame

/-- The header of a frame, as it is received. -/
def received (f : PlainFrame) : ReceivedHeader := ⟨f.payload.length, false, f.header, f.messageId⟩

/-- What stands between the mark and the checksum of a frame. -/
def body (f : PlainFrame) : List UInt8 :=
  [UInt8.ofNat f.payload.length, f.incompatible, f.compatible, f.header.sequence,
    f.header.sender.system, f.header.sender.component] ++ octetsOf 3 f.messageId ++ f.payload

/-- The checksum of a frame, as it is sent. -/
def checksumOctets (d : Dialect) (f : PlainFrame) : List UInt8 :=
  octetsOf checksumSize (frameChecksum f.body (d.seed f.messageId))

/-- The octets of a frame. -/
def octets (d : Dialect) (f : PlainFrame) : List UInt8 :=
  frameMark :: f.body ++ f.checksumOctets d

/-- What a frame says, if it holds a message of the dialect. -/
def decoded? (d : Dialect) (f : PlainFrame) : Option (Header × Message) :=
  (d.message? f.messageId f.payload).map fun m => (f.header, m)

/-- Does a frame hold a message of the dialect? -/
def decodes (d : Dialect) (f : PlainFrame) : Bool := (f.decoded? d).isSome

/-- The frame of a message. -/
def ofMessage (h : Header) (m : Message) : PlainFrame where
  incompatible := 0
  compatible := 0
  header := h
  messageId := m.kind.id
  payload := trimZeros m.octets
  unsigned := by decide
  messageId_lt := m.kind.id_lt
  length_lt := m.length_trimZeros_octets

end PlainFrame

theorem frameOf_eq (d : Dialect) (h : Header) {m : Message} (hown : m.kind.isOwn = true) :
    frameOf h m = (PlainFrame.ofMessage h m).octets d := by
  have hseed : d.seed (PlainFrame.ofMessage h m).messageId = m.kind.seed := Dialect.seed_id hown
  rw [PlainFrame.octets, PlainFrame.checksumOctets, hseed]
  rfl

theorem decoded?_ofMessage (d : Dialect) (h : Header) {m : Message}
    (hown : m.kind.isOwn = true) : (PlainFrame.ofMessage h m).decoded? d = some (h, m) := by
  have hread : d.message? m.kind.id (trimZeros m.octets) = some m := by
    rw [Dialect.message?_id hown, Message.ofOctets?_trimZeros hown]
  rw [PlainFrame.decoded?]
  exact congrArg (Option.map fun m => (h, m)) hread

/-! ## One step of the search -/

/-- **Octets without a mark are passed over.** -/
theorem messagesOf_append_of_no_mark {gap : List UInt8} (h : frameMark ∉ gap)
    (rest : List UInt8) : d.messagesOf (gap ++ rest) = d.messagesOf rest := by
  induction gap with
  | nil => rfl
  | cons octet gap ih =>
    obtain ⟨hoctet, hgap⟩ := List.ne_and_not_mem_of_not_mem_cons h
    rw [List.cons_append, Dialect.messagesOf, if_pos (Ne.symm hoctet), ih hgap]

section Search

variable (d : Dialect) (f : PlainFrame) (rest : List UInt8)

theorem length_body : f.body.length = f.received.bodySize := by
  simp [PlainFrame.body, PlainFrame.received, ReceivedHeader.bodySize, headerSize]
  omega

theorem ofOctets?_body : ReceivedHeader.ofOctets? (f.body ++ rest) = some f.received := by
  have hsize : (UInt8.ofNat f.payload.length).toNat = f.payload.length :=
    UInt8.toNat_ofNat_of_lt' f.length_lt
  have hid : numberOf (octetsOf 3 f.messageId) = f.messageId :=
    numberOf_octetsOf f.messageId_lt
  have hsigned : decide (f.incompatible &&& signedFlag ≠ 0) = false :=
    decide_eq_false (not_not_intro f.unsigned)
  show some (ReceivedHeader.mk (UInt8.ofNat f.payload.length).toNat
    (f.incompatible &&& signedFlag ≠ 0) f.header (numberOf (octetsOf 3 f.messageId))) = _
  rw [hsize, hid, hsigned, PlainFrame.received]

theorem checks_body : f.received.checks d (f.body ++ (f.checksumOctets d ++ rest)) := by
  have hnumber : numberOf (f.checksumOctets d) = frameChecksum f.body (d.seed f.messageId) :=
    numberOf_octetsOf (checksum _).toNat_lt
  have hlength : (f.checksumOctets d).length = checksumSize := length_octetsOf ..
  rw [ReceivedHeader.checks, List.take_left' (length_body f), List.drop_left' (length_body f),
    List.take_left' hlength, hnumber]
  exact decide_eq_true rfl

theorem message?_body :
    (f.received.message? d (f.body ++ rest)).map (fun m => (f.header, m)) = f.decoded? d := by
  have hpayload : ((f.body ++ rest).drop headerSize).take f.received.payloadSize = f.payload :=
    List.take_left' rfl
  rw [ReceivedHeader.message?, hpayload]
  rfl

/-- **A frame is taken whole**: it yields its message and the search goes on behind it, or the
search ends. -/
theorem messagesOf_frame :
    d.messagesOf (f.octets d ++ rest) =
      match f.decoded? d with
      | some heard => heard :: d.messagesOf rest
      | none => [] := by
  let tail := f.checksumOctets d ++ rest
  have hoctets : f.octets d ++ rest = frameMark :: (f.body ++ tail) := by
    simp [PlainFrame.octets, tail]
  have hsize : f.received.frameSize = (f.body ++ f.checksumOctets d).length := by
    rw [List.length_append, length_body, PlainFrame.checksumOctets, length_octetsOf]
    rfl
  have henough : ¬ (f.body ++ tail).length < f.received.frameSize := by
    simp only [hsize, tail, List.length_append]
    omega
  have hrest : (f.body ++ tail).drop f.received.frameSize = rest := by
    rw [← List.append_assoc, hsize, List.drop_left]
  have hchecks : f.received.checks d (f.body ++ tail) = true := checks_body d f rest
  rw [hoctets, Dialect.messagesOf, if_neg (not_not_intro rfl), ofOctets?_body,
    ← message?_body d f tail]
  simp only [if_neg henough, hchecks, if_true]
  cases f.received.message? d (f.body ++ tail) with
  | none => rfl
  | some m => exact congrArg (fun octets => (f.header, m) :: d.messagesOf octets) hrest

end Search

/-! ## Whole datagrams -/

/-- What frames say up to the first one that holds no message of the dialect. -/
def readable (d : Dialect) (fs : List PlainFrame) : List (Header × Message) :=
  (fs.takeWhile (·.decodes d)).filterMap (·.decoded? d)

theorem readable_cons (d : Dialect) (f : PlainFrame) (fs : List PlainFrame) :
    readable d (f :: fs) =
      match f.decoded? d with
      | some heard => heard :: readable d fs
      | none => [] := by
  rw [readable, List.takeWhile_cons, PlainFrame.decodes]
  cases h : f.decoded? d with
  | none => rfl
  | some heard => exact List.filterMap_cons_some h

/-- Frames of messages of the station's kinds are all readable. -/
theorem readable_ofMessage (d : Dialect) {sent : List (Header × Message)}
    (hown : ∀ s ∈ sent, s.2.kind.isOwn = true) :
    readable d (sent.map fun s => .ofMessage s.1 s.2) = sent := by
  induction sent with
  | nil => rfl
  | cons s rest ih =>
    obtain ⟨hs, hrest⟩ := List.forall_mem_cons.mp hown
    rw [List.map_cons, readable_cons, decoded?_ofMessage d s.1 hs, ih hrest]

/-- **Frames are read as if nothing were between them**, as long as no mark is. -/
theorem messagesOf_woven (fs : List (List UInt8 × PlainFrame)) (last : List UInt8)
    (hgaps : ∀ f ∈ fs, frameMark ∉ f.1) (hlast : frameMark ∉ last) :
    d.messagesOf (fs.flatMap (fun f => f.1 ++ f.2.octets d) ++ last) =
      readable d (fs.map (·.2)) := by
  induction fs with
  | nil =>
    have hnothing : d.messagesOf (last ++ []) = d.messagesOf [] :=
      messagesOf_append_of_no_mark hlast []
    rw [List.append_nil, Dialect.messagesOf] at hnothing
    exact hnothing
  | cons f fs ih =>
    have hrest := ih fun g hg => hgaps g (List.mem_cons_of_mem f hg)
    rw [List.flatMap_cons, List.append_assoc, List.append_assoc,
      messagesOf_append_of_no_mark (hgaps f List.mem_cons_self), messagesOf_frame, hrest,
      List.map_cons, readable_cons]

/-- All there is to read is read if and only if no frame that can be read stands behind one
that cannot. -/
theorem readable_eq_iff (d : Dialect) (fs : List PlainFrame) :
    readable d fs = fs.filterMap (·.decoded? d) ↔
      fs.Pairwise fun f g => f.decoded? d = none → g.decoded? d = none := by
  induction fs with
  | nil => exact iff_of_true rfl List.Pairwise.nil
  | cons f fs ih =>
    rw [readable_cons, List.pairwise_cons]
    cases h : f.decoded? d with
    | none =>
      have hlost : ([] = (f :: fs).filterMap (·.decoded? d)) ↔
          ∀ g ∈ fs, g.decoded? d = none := by
        rw [eq_comm, List.filterMap_cons_none h, List.filterMap_eq_nil_iff]
      refine hlost.trans ⟨fun hnone => ⟨fun g hg _ => hnone g hg, ?_⟩,
        fun hpair g hg => hpair.1 g hg rfl⟩
      exact List.pairwise_of_forall_mem_list fun g _ k hk _ => hnone k hk
    | some heard =>
      rw [List.filterMap_cons_some h, List.cons.injEq, ih]
      have hread : ∀ g ∈ fs, some heard = none → g.decoded? d = none :=
        fun g _ hnone => nomatch hnone
      exact ⟨fun hpair => ⟨hread, hpair.2⟩, fun hpair => ⟨rfl, hpair.2⟩⟩

theorem messagesOf_flatMap (d : Dialect) (fs : List PlainFrame) :
    d.messagesOf (fs.flatMap (·.octets d)) = readable d fs := by
  have hwoven := messagesOf_woven (d := d) (fs.map fun f => ([], f)) [] (by simp) (by simp)
  simpa [List.flatMap_map, Function.comp_def] using hwoven

/-- **A datagram of frames yields what they say up to the first one that holds no message of
the dialect.** That is all there is to read exactly if no frame behind that one could be
read. -/
theorem messagesOf_frames (d : Dialect) (fs : List PlainFrame) :
    d.messagesOf (fs.flatMap (·.octets d)) = readable d fs ∧
      (d.messagesOf (fs.flatMap (·.octets d)) = fs.filterMap (·.decoded? d) ↔
        fs.Pairwise fun f g => f.decoded? d = none → g.decoded? d = none) := by
  rw [messagesOf_flatMap]
  exact ⟨rfl, readable_eq_iff d fs⟩

/-- A status report with what looks like the mark of a frame in it, and an acknowledgement: both
are read. -/
example :
    (messagesOf
      ([0xFD, 31, 0, 0, 7, 1, 1, 1, 0, 0, 0xFD, 0xFF] ++ List.replicate 28 0 ++ [100, 0xEC, 0x37] ++
        [0xFD, 2, 0, 0, 1, 1, 1, 77, 0, 0, 0x90, 1, 0x5D, 0x15])).map (·.2.kind.name) =
      ["SYS_STATUS", "COMMAND_ACK"] := by
  decide +kernel

/-- A heartbeat of a kind of vehicle that the dialect does not have. -/
def strangeHeartbeat : PlainFrame where
  incompatible := 0
  compatible := 0
  header := ⟨⟨1, 1⟩, 0⟩
  messageId := 0
  payload := [0, 0, 0, 0, 60, 12, 0, 4, 3]
  unsigned := by decide
  messageId_lt := by decide
  length_lt := by decide

/-- The vehicle's acceptance of the command to arm. -/
def armAcceptance : PlainFrame :=
  .ofMessage ⟨⟨1, 1⟩, 1⟩ (.commandAck ⟨.armDisarm, CommandResult.accepted⟩)

/-- **An acceptance is lost behind a heartbeat that cannot be read**, although it would be read
by itself. -/
theorem acceptance_lost_behind :
    messagesOf ([strangeHeartbeat, armAcceptance].flatMap (·.octets .common)) ≠
        [strangeHeartbeat, armAcceptance].filterMap (·.decoded? .common) ∧
      messagesOf (armAcceptance.octets .common) =
        [(⟨⟨1, 1⟩, 1⟩, .commandAck ⟨.armDisarm, CommandResult.accepted⟩)] := by
  have hacceptance : armAcceptance.decoded? .common =
      some (⟨⟨1, 1⟩, 1⟩, .commandAck ⟨.armDisarm, _⟩) := decoded?_ofMessage _ _ rfl
  have hstrange : strangeHeartbeat.decoded? .common = none := by decide
  refine ⟨?_, ?_⟩
  · rw [messagesOf, messagesOf_flatMap, readable_cons, hstrange,
      List.filterMap_cons_none hstrange, List.filterMap_cons_some hacceptance]
    exact (List.cons_ne_nil _ _).symm
  · have halone := messagesOf_flatMap .common [armAcceptance]
    rw [List.flatMap_singleton, readable_cons, hacceptance] at halone
    exact halone

end GroundStation.Mavlink
