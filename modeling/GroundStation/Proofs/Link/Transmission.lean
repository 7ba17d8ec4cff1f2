import GroundStation.Proofs.Link.Answers
import GroundStation.Proofs.Link.Calls
import GroundStation.Proofs.Mavlink.Datagram

/-!
# What the link sends is read back

Whatever happens to a link, it sends with its own address, and the numbers of its messages are
those of its attempts: one number an attempt, from zero on and again from zero after 255
(`Numbered`). An attempt without a peer is none. If no transmission fails, the attempts are the
messages that go out, so the numbers that arrive have no gap.

Each function of the link that speaks is shown to keep the numbering (`Talks`), and each one
that listens to send nothing; the numbering of a run is then an induction over its events. All
that is sent is of the station's own kinds, so the frames of what was sent are read back as it was
sent in every dialect, with anything but marks between them.

## Main results

* `moveCall_talks`, `step_numbers`: what one move and one event send.
* `run_numbers`: what a run sends.
* `send_lost_iff`, `nothingLost_cons`: what it means that nothing is lost.
* `transmissions_read_back`: what a run sends, read from its frames.
-/

namespace GroundStation

open Mavlink

/-! ## Messages that are sent -/

/-- What an act of the link sends. -/
def LinkAct.sent? : LinkAct → Option (Header × Message)
  | .sends _ header message => some (header, message)
  | _ => none

/-- What acts send, with the headers, in order. -/
def sentIn (acts : List LinkAct) : List (Header × Message) := acts.filterMap (·.sent?)

theorem sentIn_append (acts later : List LinkAct) :
    sentIn (acts ++ later) = sentIn acts ++ sentIn later := List.filterMap_append

/-- A request sends a message of the station's kinds. -/
theorem CommandRequest.isOwn_message (r : CommandRequest) : r.message.kind.isOwn = true := by
  unfold CommandRequest.message
  cases r.order <;> rfl

/-- Does an act go out to the vehicle, or back to a caller? -/
def LinkAct.isOutward : LinkAct → Bool
  | .sends .. | .ends .. => true
  | _ => false

/-- Messages of the station's kinds with the numbers of their attempts, from one attempt and
number up to another. Attempts that fail use a number and send nothing. -/
inductive Numbered (station : SystemAddress) :
    Nat → UInt8 → List (Header × Message) → Nat → UInt8 → Prop
  | nil (n : Nat) (s : UInt8) : Numbered station n s [] n s
  | sent {n n' : Nat} {s s' : UInt8} {rest : List (Header × Message)} {m : Message}
      (hown : m.kind.isOwn = true) (h : Numbered station (n + 1) (s + 1) rest n' s') :
      Numbered station n s ((⟨station, s⟩, m) :: rest) n' s'
  | lost {n n' : Nat} {s s' : UInt8} {rest : List (Header × Message)}
      (h : Numbered station (n + 1) (s + 1) rest n' s') : Numbered station n s rest n' s'

namespace Numbered

variable {station : SystemAddress} {n n' n'' : Nat} {s s' s'' : UInt8}
  {sent later : List (Header × Message)}

theorem append (h : Numbered station n s sent n' s') (h' : Numbered station n' s' later n'' s'') :
    Numbered station n s (sent ++ later) n'' s'' := by
  induction h with
  | nil n s => exact h'
  | sent hown h ih => exact .sent hown (ih h')
  | lost h ih => exact .lost (ih h')

/-- No more messages are sent than attempts made. -/
theorem length_le (h : Numbered station n s sent n' s') : n + sent.length ≤ n' := by
  induction h with
  | nil n s => exact Nat.le_refl n
  | sent hown h ih =>
      rw [List.length_cons]
      omega
  | lost h ih => omega

/-- Without an attempt nothing is sent, and no number is used. -/
theorem of_same (h : Numbered station n s sent n' s') (hsame : n' = n) : sent = [] ∧ s' = s := by
  cases h with
  | nil n s => exact ⟨rfl, rfl⟩
  | sent hown h =>
      have hle := h.length_le
      omega
  | lost h =>
      have hle := h.length_le
      omega

/-- The messages have the station's address and, if no attempt failed, consecutive numbers. -/
theorem headers (h : Numbered station n s sent n' s') (hall : n' = n + sent.length) :
    ∀ (k : Nat) (hk : k < sent.length), sent[k].1 = ⟨station, s + UInt8.ofNat k⟩ := by
  induction h with
  | nil n s => exact fun k hk => absurd hk (Nat.not_lt_zero k)
  | @sent n n' s s' rest m hown h ih =>
      rw [List.length_cons] at hall
      intro k hk
      cases k with
      | zero => simp
      | succ k =>
          rw [List.length_cons] at hk
          have hnext := ih (by omega) k (by omega)
          have hnumber : s + 1 + UInt8.ofNat k = s + UInt8.ofNat (k + 1) := by
            rw [UInt8.ofNat_add, UInt8.add_assoc, UInt8.add_comm (UInt8.ofNat k)]
            rfl
          rw [List.getElem_cons_succ, hnext, hnumber]
  | lost h ih =>
      have hle := h.length_le
      omega

/-- All messages are of the station's kinds. -/
theorem own (h : Numbered station n s sent n' s') : ∀ x ∈ sent, x.2.kind.isOwn = true := by
  induction h with
  | nil n s => exact fun _ hx => absurd hx List.not_mem_nil
  | sent hown h ih => exact List.forall_mem_cons.mpr ⟨hown, ih⟩
  | lost h ih => exact ih

end Numbered

namespace VehicleLink

variable {l l' l'' : VehicleLink} {acts later : List LinkAct}

/-! ## Speaking -/

/-- The link keeps its address, and its messages have the numbers of their attempts. -/
structure Numbers (l : VehicleLink) (acts : List LinkAct) (l' : VehicleLink) : Prop where
  config : l'.config = l.config
  numbered : Numbered l.station l.transmissions l.sequence (sentIn acts) l'.transmissions
    l'.sequence

theorem Numbers.trans (h : l.Numbers acts l') (h' : l'.Numbers later l'') :
    l.Numbers (acts ++ later) l'' where
  config := h'.config.trans h.config
  numbered := by
    have hstation : l'.station = l.station := by rw [station, station, h.config]
    rw [sentIn_append]
    exact h.numbered.append (hstation ▸ h'.numbered)

/-- A link that knows of the vehicle what it knew, and made no attempt to send. -/
structure Still (l l' : VehicleLink) : Prop where
  vehicle : l'.vehicle = l.vehicle
  lastPosition : l'.lastPosition = l.lastPosition
  config : l'.config = l.config
  transmissions : l'.transmissions = l.transmissions
  sequence : l'.sequence = l.sequence

theorem Still.refl (l : VehicleLink) : l.Still l := ⟨rfl, rfl, rfl, rfl, rfl⟩

theorem Still.trans (h : l.Still l') (h' : l'.Still l'') : l.Still l'' where
  vehicle := h'.vehicle.trans h.vehicle
  lastPosition := h'.lastPosition.trans h.lastPosition
  config := h'.config.trans h.config
  transmissions := h'.transmissions.trans h.transmissions
  sequence := h'.sequence.trans h.sequence

/-- A link that makes no attempt sends nothing. -/
theorem Numbers.of_same (hconfig : l'.config = l.config)
    (htransmissions : l'.transmissions = l.transmissions) (hsequence : l'.sequence = l.sequence)
    (hacts : sentIn acts = []) : l.Numbers acts l' where
  config := hconfig
  numbered := by
    rw [htransmissions, hsequence, hacts]
    exact .nil ..

/-- What the link does of its own accord or for a caller: it sends and it answers, and learns
nothing about the vehicle. -/
structure Talks (l : VehicleLink) (acts : List LinkAct) (l' : VehicleLink) : Prop where
  vehicle : l'.vehicle = l.vehicle
  lastPosition : l'.lastPosition = l.lastPosition
  outward : ∀ a ∈ acts, a.isOutward
  numbers : l.Numbers acts l'

theorem Talks.trans (h : l.Talks acts l') (h' : l'.Talks later l'') :
    l.Talks (acts ++ later) l'' where
  vehicle := h'.vehicle.trans h.vehicle
  lastPosition := h'.lastPosition.trans h.lastPosition
  outward a ha := (List.mem_append.mp ha).elim (h.outward a) (h'.outward a)
  numbers := h.numbers.trans h'.numbers

/-- A link that says nothing. -/
theorem Still.talks (h : l.Still l') : l.Talks [] l' where
  vehicle := h.vehicle
  lastPosition := h.lastPosition
  outward _ ha := absurd ha List.not_mem_nil
  numbers := .of_same h.config h.transmissions h.sequence rfl

/-- A link that answers a caller, and says nothing else. -/
theorem Still.answers (h : l.Still l') (id : Nat) (reply : Reply) :
    l.Talks [.ends id reply] l' where
  vehicle := h.vehicle
  lastPosition := h.lastPosition
  outward a ha := by
    rw [List.mem_singleton.mp ha]
    rfl
  numbers := .of_same h.config h.transmissions h.sequence rfl

theorem Talks.refl (l : VehicleLink) : l.Talks [] l := (Still.refl l).talks

theorem send_talks (l : VehicleLink) {m : Message} (hown : m.kind.isOwn = true) :
    l.Talks (l.send m).acts (l.send m).link := by
  unfold send
  split
  · exact Talks.refl l
  · dsimp only
    split
    · exact ⟨rfl, rfl, fun _ ha => absurd ha List.not_mem_nil, rfl, .lost (.nil ..)⟩
    · refine ⟨rfl, rfl, fun a ha => ?_, rfl, .sent hown (.nil ..)⟩
      rw [List.mem_singleton.mp ha]
      rfl

theorem announceAll_talks (l : VehicleLink) {messages : List Message}
    (hown : ∀ m ∈ messages, m.kind.isOwn = true) :
    l.Talks (l.announceAll messages).2 (l.announceAll messages).1 := by
  induction messages generalizing l with
  | nil => exact Talks.refl l
  | cons m rest ih =>
      obtain ⟨hm, hrest⟩ := List.forall_mem_cons.mp hown
      exact (l.send_talks hm).trans (ih (l.send m).link hrest)

theorem refreshSetPoint_talks (l : VehicleLink) :
    l.Talks l.refreshSetPoint.2 l.refreshSetPoint.1 := by
  unfold refreshSetPoint
  split
  · exact l.send_talks rfl
  · exact Talks.refl l

theorem requestStreams_talks (l : VehicleLink) :
    l.Talks l.requestStreams.2 l.requestStreams.1 := by
  have hdone : l.Talks [] { l with streamsDue := false } := Still.talks ⟨rfl, rfl, rfl, rfl, rfl⟩
  unfold requestStreams
  dsimp only
  split
  · exact hdone
  · split
    · exact hdone
    · rename_i vehicle _ _
      have hown : ∀ m ∈ streamedKinds.map (streamRequest vehicle (1000000.0 / l.config.streamRate)),
          m.kind.isOwn = true :=
        fun m hm => (List.mem_map.mp hm).elim fun _ hkind => hkind.2 ▸ rfl
      exact hdone.trans (announceAll_talks { l with streamsDue := false } hown)

/-! ## Calls -/

theorem startRequest_still (l : VehicleLink) (now : Instant) (name : String) (order : Order)
    (target : SystemAddress) : l.Still (l.startRequest now name order target).1 := by
  unfold startRequest
  dsimp only
  split <;> exact ⟨rfl, rfl, rfl, rfl, rfl⟩

/-- A call begins without an attempt to send, and may be over at once. -/
structure Begins (l : VehicleLink) (id : Nat) (l' : VehicleLink) (acts : List LinkAct) : Prop where
  still : l.Still l'
  answer : acts = [] ∨ ∃ reply, acts = [.ends id reply]

theorem Begins.talks {id : Nat} (h : l.Begins id l' acts) : l.Talks acts l' := by
  rcases h.answer with hacts | ⟨reply, hacts⟩
  · exact hacts ▸ h.still.talks
  · exact hacts ▸ h.still.answers id reply

theorem beginCommand_begins (h : l.Still l') (now : Instant) (id : Nat) (name : String)
    (order : Order) :
    l.Begins id (l'.beginCommand now id name order).1 (l'.beginCommand now id name order).2 := by
  unfold beginCommand
  split
  · exact ⟨h, .inr ⟨_, rfl⟩⟩
  · rename_i target _
    have hstarted := h.trans (l'.startRequest_still now name order target)
    exact ⟨hstarted.trans ⟨rfl, rfl, rfl, rfl, rfl⟩, .inl rfl⟩

theorem beginFresh_begins (l : VehicleLink) (now : Instant) (id : Nat) (call : LinkCall) :
    l.Begins id (l.beginFresh now id call).1 (l.beginFresh now id call).2 := by
  have hleft : l.Still l.leaveOffboard := ⟨rfl, rfl, rfl, rfl, rfl⟩
  cases call with
  | arm => exact beginCommand_begins (Still.refl l) now id _ _
  | setTakeoffAltitude altitude => exact ⟨⟨rfl, rfl, rfl, rfl, rfl⟩, .inr ⟨_, rfl⟩⟩
  | velocity v =>
      unfold beginFresh beginVelocity
      dsimp only
      split
      · exact ⟨Still.refl l, .inr ⟨_, rfl⟩⟩
      · exact ⟨⟨rfl, rfl, rfl, rfl, rfl⟩, .inl rfl⟩
  | shell text =>
      unfold beginFresh
      dsimp only
      split
      · exact ⟨Still.refl l, .inr ⟨_, rfl⟩⟩
      · exact ⟨⟨rfl, rfl, rfl, rfl, rfl⟩, .inl rfl⟩
  | _ => exact beginCommand_begins hleft now id _ _

theorem finish_talks (l : VehicleLink) (c : OpenCall) (reply : Reply) :
    l.Talks (l.finish c reply).2 (l.finish c reply).1 := by
  have hended : l.Still (l.finish c reply).1 := ⟨rfl, rfl, rfl, rfl, rfl⟩
  exact hended.answers c.id reply

theorem after_talks (l : VehicleLink) {m : Message} (hown : m.kind.isOwn = true) (c : OpenCall)
    {goOn : VehicleLink → VehicleLink × List LinkAct}
    (hgoOn : ∀ l' : VehicleLink, l'.Talks (goOn l').2 (goOn l').1) :
    l.Talks (after (l.send m) c goOn).2 (after (l.send m) c goOn).1 := by
  have hsent := l.send_talks hown
  rcases after_cases (l.send m) c goOn with heq | ⟨e, heq⟩
  · rw [heq]
    exact hsent.trans (hgoOn _)
  · rw [heq]
    exact hsent.trans (finish_talks _ _ _)

theorem moveCall_talks (l : VehicleLink) (now : Instant) (c : OpenCall) :
    l.Talks (l.moveCall now c).2 (l.moveCall now c).1 := by
  have hrestage : ∀ (l' : VehicleLink) (stage : CallStage), l'.Talks [] (l'.restage c.id stage) :=
    fun _ _ => Still.talks ⟨rfl, rfl, rfl, rfl, rfl⟩
  unfold moveCall
  cases c.stage with
  | setPointDue target v =>
      refine after_talks l rfl c fun l' => ?_
      split
      · exact finish_talks _ _ _
      · exact (l'.startRequest_still now "offboard" followOrder target).talks.trans (hrestage _ _)
  | transmitting r => exact after_talks l r.isOwn_message c fun l' => hrestage _ _
  | awaiting r =>
      dsimp only
      repeat' split
      · exact finish_talks _ _ _
      · exact Talks.refl l
      · exact finish_talks _ _ _
      · exact hrestage _ _
  | shellDue rest =>
      cases rest with
      | nil => exact finish_talks _ _ _
      | cons piece rest => exact after_talks l rfl c fun l' => hrestage _ _

/-! ## Listening -/

theorem understand_numbers (l : VehicleLink) (fromAutopilot : Bool) (m : Message) :
    l.Numbers (l.understand fromAutopilot m).2 (l.understand fromAutopilot m).1 := by
  cases m with
  | commandAck a =>
      change l.Numbers [] (l.acknowledge a)
      unfold acknowledge
      split <;> exact .of_same rfl rfl rfl rfl
  | heartbeat b => cases fromAutopilot <;> exact .of_same rfl rfl rfl rfl
  | serialControl s =>
      refine .of_same rfl rfl rfl ?_
      rw [understand, sentIn, List.filterMap_map]
      exact List.filterMap_eq_nil_iff.mpr fun _ _ => rfl
  | _ => exact .of_same rfl rfl rfl rfl

theorem listen_numbers (l : VehicleLink) (h : Header) (m : Message) :
    l.Numbers (l.listen h m).2 (l.listen h m).1 := by
  unfold listen
  split
  · exact .of_same rfl rfl rfl rfl
  · split
    · exact understand_numbers _ _ _
    · exact .of_same rfl rfl rfl rfl

theorem handle_numbers (l : VehicleLink) (h : Header) (m : Message) :
    l.Numbers (l.handle h m).2 (l.handle h m).1 := by
  have hknown : l.Numbers (l.identify h.sender).2 (l.identify h.sender).1 := by
    unfold identify
    split <;> exact .of_same rfl rfl rfl rfl
  cases m with
  | heartbeat b =>
      unfold handle
      dsimp only
      split
      · exact hknown.trans (listen_numbers _ _ _)
      · exact .of_same rfl rfl rfl rfl
  | _ => exact listen_numbers _ _ _

theorem handleAll_numbers (l : VehicleLink) (messages : List (Header × Message)) :
    l.Numbers (l.handleAll messages).2 (l.handleAll messages).1 := by
  induction messages generalizing l with
  | nil => exact .of_same rfl rfl rfl rfl
  | cons first rest ih =>
      exact (l.handle_numbers first.1 first.2).trans (ih (l.handle first.1 first.2).1)

theorem receive_numbers (l : VehicleLink) (sender : Endpoint) (octets : List UInt8) :
    l.Numbers (l.receive sender octets).2 (l.receive sender octets).1 := by
  have hpeer : l.Numbers [] (l.notePeer sender) := by
    unfold notePeer
    split <;> exact .of_same rfl rfl rfl rfl
  exact hpeer.trans (handleAll_numbers _ _)

/-! ## Runs -/

/-- Does an event bring messages to the link? -/
def Event.isHeard : Event → Bool
  | .datagram .. | .message .. => true
  | _ => false

/-- An event that brings no message. -/
theorem step_talks (l : VehicleLink) (now : Instant) {e : Event} (he : e.isHeard = false) :
    l.Talks (l.step now e).2 (l.step now e).1 := by
  cases e with
  | call id call =>
      change l.Talks (l.begin now id call).2 (l.begin now id call).1
      unfold begin
      split
      · exact Talks.refl l
      · exact (l.beginFresh_begins now id call).talks
  | move id =>
      change l.Talks (l.move now id).2 (l.move now id).1
      unfold move
      split
      · exact l.moveCall_talks now _
      · exact Talks.refl l
  | abandon id =>
      change l.Talks [] (l.abandon id)
      unfold abandon
      split <;> exact Still.talks ⟨rfl, rfl, rfl, rfl, rfl⟩
  | datagram sender octets => cases he
  | message h m => cases he
  | heartbeat => exact l.send_talks rfl
  | refresh => exact l.refreshSetPoint_talks
  | requestStreams => exact l.requestStreams_talks

/-- **What one event sends has the numbers of the attempts.** -/
theorem step_numbers (l : VehicleLink) (now : Instant) (e : Event) :
    l.Numbers (l.step now e).2 (l.step now e).1 := by
  cases e with
  | datagram sender octets => exact l.receive_numbers sender octets
  | message h m => exact l.handle_numbers h m
  | _ => exact (l.step_talks now rfl).numbers

/-- **What a run sends has the numbers of the attempts.** -/
theorem run_numbers (l : VehicleLink) (es : List (Instant × Event)) :
    l.Numbers (l.run es).2 (l.run es).1 := by
  induction es generalizing l with
  | nil => exact .of_same rfl rfl rfl rfl
  | cons first rest ih =>
      exact (l.step_numbers first.1 first.2).trans (ih (l.step first.1 first.2).1)

/-! ## Attempts that fail -/

/-- No transmission of a run failed: as many messages went out as attempts were made. -/
def NothingLost (l : VehicleLink) (es : List (Instant × Event)) : Prop :=
  (l.run es).1.transmissions = l.transmissions + (sentIn (l.run es).2).length

/-- One attempt that sends nothing is one that the network fails. -/
theorem send_lost_iff (l : VehicleLink) (m : Message) :
    (l.send m).link.transmissions ≠ l.transmissions + (sentIn (l.send m).acts).length ↔
      ∃ reason, (l.send m).reply = .error (.io reason) := by
  unfold send
  split
  · simp [sentIn]
  · dsimp only
    split <;> simp [sentIn, LinkAct.sent?]

/-- Nothing is lost in a run if nothing is lost at any of its events. -/
theorem nothingLost_cons (l : VehicleLink) (now : Instant) (e : Event)
    (es : List (Instant × Event)) :
    l.NothingLost ((now, e) :: es) ↔
      l.NothingLost [(now, e)] ∧ (l.step now e).1.NothingLost es := by
  have hstep := (l.step_numbers now e).numbered.length_le
  have hrest := ((l.step now e).1.run_numbers es).numbered.length_le
  simp only [NothingLost, run, sentIn_append, List.append_nil, List.length_append]
  omega

/-- **An attempt without a peer sends nothing and uses no number.** -/
theorem send_notConnected {m : Message} (h : (l.send m).reply = .error .notConnected) :
    l.send m = ⟨l, [], .error .notConnected⟩ := by
  unfold send at h ⊢
  split
  · rfl
  · rename_i hpeer
    simp only [hpeer] at h
    split at h <;> cases h

variable {c : OpenCall} {now : Instant} {id : Nat}

/-- A call that ends for want of a peer ends before an attempt is made. -/
theorem after_notConnected {m : Message} {goOn : VehicleLink → VehicleLink × List LinkAct}
    (hgoOn : ∀ l' : VehicleLink, (id, .error .notConnected) ∉ callEnds (goOn l').2)
    (h : (id, .error .notConnected) ∈ callEnds (after (l.send m) c goOn).2) :
    (after (l.send m) c goOn).1.transmissions = l.transmissions := by
  have hacts : callEnds (l.send m).acts = [] := (l.send_rests m).2
  unfold after at h ⊢
  cases hreply : (l.send m).reply with
  | ok _ =>
      simp only [hreply, callEnds_append, hacts, List.nil_append] at h
      exact absurd h (hgoOn _)
  | error e =>
      simp only [hreply, callEnds_append, hacts, List.nil_append] at h
      obtain rfl : e = .notConnected := by
        have hend : (id, Except.error LinkError.notConnected) = (c.id, .error e) :=
          List.mem_singleton.mp h
        cases hend
        rfl
      rw [send_notConnected hreply]
      rfl

theorem moveCall_notConnected
    (h : (id, .error .notConnected) ∈ callEnds (l.moveCall now c).2) :
    (l.moveCall now c).1.transmissions = l.transmissions := by
  have hgone : (id, Except.error LinkError.notConnected) ∉ callEnds [] := List.not_mem_nil
  unfold moveCall at h ⊢
  cases hstage : c.stage with
  | setPointDue target v =>
      rw [hstage] at h
      refine after_notConnected (fun l' hend => ?_) h
      split at hend
      · cases List.mem_singleton.mp hend
      · exact hgone hend
  | transmitting r =>
      rw [hstage] at h
      exact after_notConnected (fun _ => hgone) h
  | awaiting r =>
      dsimp only
      repeat' split
      all_goals rfl
  | shellDue rest =>
      rw [hstage] at h
      cases rest with
      | nil => rfl
      | cons m rest => exact after_notConnected (fun _ => hgone) h

/-- **An event at which a call ends for want of a peer or a vehicle sends nothing and uses no
number.** -/
theorem step_notConnected {e : Event} (h : .ends id (.error .notConnected) ∈ (l.step now e).2) :
    (l.step now e).1.transmissions = l.transmissions := by
  have hend := mem_callEnds.mpr h
  have habsurd : ∀ {acts : List LinkAct}, callEnds acts = [] →
      (id, Except.error LinkError.notConnected) ∉ callEnds acts := fun hnone hmem =>
    absurd (hnone ▸ hmem) List.not_mem_nil
  cases e with
  | call k call =>
      change (l.begin now k call).1.transmissions = l.transmissions
      unfold begin
      split
      · rfl
      · exact (l.beginFresh_begins now k call).still.transmissions
  | move k =>
      change (id, _) ∈ callEnds (l.move now k).2 at hend
      change (l.move now k).1.transmissions = l.transmissions
      unfold move at hend ⊢
      split
      · rename_i c hfind
        rw [hfind] at hend
        exact moveCall_notConnected hend
      · rfl
  | abandon k => exact absurd h List.not_mem_nil
  | datagram sender octets => exact absurd hend (habsurd (l.receive_rests sender octets).2)
  | message header m => exact absurd hend (habsurd (l.handle_rests header m).2)
  | heartbeat => exact absurd hend (habsurd (l.send_rests _).2)
  | refresh => exact absurd hend (habsurd l.refreshSetPoint_rests.2)
  | requestStreams => exact absurd hend (habsurd l.requestStreams_rests.2)

/-! ## What arrives -/

/-- The frames of messages, with other octets before, between and behind them. -/
def woven (gaps : List (List UInt8)) (sent : List (Header × Message)) (last : List UInt8) :
    List UInt8 :=
  ((gaps.zip sent).flatMap fun s => s.1 ++ frameOf s.2.1 s.2.2) ++ last

/-- Messages of the station's kinds are read from their frames as they were sent, in every
dialect. -/
theorem messagesOf_sent (d : Dialect) {gaps : List (List UInt8)} {sent : List (Header × Message)}
    {last : List UInt8} (hown : ∀ s ∈ sent, s.2.kind.isOwn = true)
    (hlength : gaps.length = sent.length) (hgaps : ∀ gap ∈ gaps, frameMark ∉ gap)
    (hlast : frameMark ∉ last) :
    d.messagesOf (woven gaps sent last) = sent := by
  let frames := sent.map fun s => PlainFrame.ofMessage s.1 s.2
  have hwoven : woven gaps sent last =
      ((gaps.zip frames).flatMap fun f => f.1 ++ f.2.octets d) ++ last := by
    simp only [woven, frames, List.zip_map_right, List.flatMap_map, Prod.map_fst, Prod.map_snd, id]
    refine congrArg (· ++ last) (List.flatMap_congr fun s hs => ?_)
    rw [frameOf_eq d s.2.1 (hown s.2 (List.of_mem_zip hs).2)]
  have hframes : (gaps.zip frames).map (·.2) = frames := by
    rw [List.map_snd_zip]
    rw [hlength]
    exact Nat.le_of_eq (List.length_map _)
  have hread : readable d frames = sent := readable_ofMessage d hown
  rw [hwoven, messagesOf_woven _ last _ hlast, hframes, hread]
  exact fun f hf => hgaps f.1 (List.of_mem_zip hf).1

/-- **What a run of the link sends is read from its frames as it was sent**, whatever other
messages the dialect has. The octets around the frames may be any but marks. The messages bear the
station's address and, if no transmission failed, their places in the sequence modulo 256; what
fails for want of a peer or a vehicle leaves no gap. -/
theorem transmissions_read_back (config : LinkConfig) (network : Network) (peer : Option Endpoint)
    (es : List (Instant × Event)) (gaps : List (List UInt8)) (last : List UInt8)
    (hlength : gaps.length = (sentIn ((new config network peer).run es).2).length)
    (hgaps : ∀ gap ∈ gaps, frameMark ∉ gap) (hlast : frameMark ∉ last) :
    let sent := sentIn ((new config network peer).run es).2
    network.dialect.messagesOf (woven gaps sent last) = sent ∧
    ((new config network peer).NothingLost es → ∀ (k : Nat) (hk : k < sent.length),
      sent[k].1.sender = ⟨config.stationSystemId, config.stationComponentId⟩ ∧
        sent[k].1.sequence.toNat = k % 256) ∧
    (∀ (l : VehicleLink) (m : Message), (l.send m).reply = .error .notConnected →
      l.send m = ⟨l, [], .error .notConnected⟩) ∧
    ∀ (l : VehicleLink) (now : Instant) (e : Event) (id : Nat),
      .ends id (.error .notConnected) ∈ (l.step now e).2 →
        sentIn (l.step now e).2 = [] ∧ (l.step now e).1.sequence = l.sequence := by
  intro sent
  have hrun := (new config network peer).run_numbers es
  refine ⟨messagesOf_sent _ hrun.numbered.own hlength hgaps hlast, fun hall k hk => ?_,
    fun l m => send_notConnected, fun l now e id hends => ?_⟩
  · have hheader := hrun.numbered.headers hall k hk
    have hnumber : (0 : UInt8) + UInt8.ofNat k = UInt8.ofNat k := UInt8.zero_add _
    refine ⟨congrArg Header.sender hheader, ?_⟩
    rw [congrArg Header.sequence hheader]
    exact (congrArg UInt8.toNat hnumber).trans UInt8.toNat_ofNat'
  · exact (l.step_numbers now e).numbered.of_same (step_notConnected hends)

/-- The station shows that it is there, and a command to arm is sent again after a while. -/
def armRepeated : List (Instant × Event) :=
  [(0, contact), (0, .heartbeat), (0, .call 0 .arm), (0, .move 0), (250, .move 0), (250, .move 0)]

/-- Three messages with octets around them, none of which is lost. -/
theorem transmissions_read_back_arm :
    let sent := sentIn (beforeContact.run armRepeated).2
    messagesOf (woven [[0], [], [1, 2]] sent [254]) = sent ∧
      ∃ hk : 2 < sent.length, sent[2].1.sequence.toNat = 2 := by
  have hsent : (sentIn (beforeContact.run armRepeated).2).length = 3 := by decide +kernel
  have hall : beforeContact.NothingLost armRepeated := by
    unfold NothingLost
    decide +kernel
  have hread := transmissions_read_back .default .reliable (some ⟨Network.localAddress, 14550⟩)
    armRepeated [[0], [], [1, 2]] [254] hsent.symm (by decide) (by decide)
  have htwo : 2 < (sentIn (beforeContact.run armRepeated).2).length := by omega
  exact ⟨hread.1, htwo, (hread.2.1 hall 2 htwo).2⟩

end VehicleLink

end GroundStation
