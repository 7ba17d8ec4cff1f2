import GroundStation.Proofs.Link.Schedule
import GroundStation.Proofs.Mavlink.ShellLine

/-!
# Shell lines on the link

A call that sends a line to the vehicle's shell tries its messages one after the other, each with a
move of its own and whatever happens to the link in between. It ends with the first attempt that
fails, and with the failure; then the messages before that one were sent, in order, and no other.
If no attempt fails it ends with the move after its last message, and the whole line was sent.

What it has sent is read from the frames that went out, and so is the line.

## Main results

* `Sending.move`: one move of the call.
* `sending_of_whileOpen`: where the call stands in a run.
* `shell_line_is_sent`: what it has sent, how it ends and what is read.
-/

namespace GroundStation

open Mavlink

/-- The message that a call at a stage tries to send with its next move. -/
def CallStage.nextMessage? : CallStage → Option Message
  | .setPointDue target velocity => some (velocitySetPoint target velocity)
  | .transmitting r => some r.message
  | .shellDue (piece :: _) => some (shellPiece piece)
  | .awaiting _ | .shellDue [] => none

namespace VehicleLink

variable {l start : VehicleLink} {id : Nat} {now : Instant} {event : Event}
  {es : List (Instant × Event)} {stage : CallStage} {sent : List (Instant × Message)}
  {text : String} {messages : List Message} {m : Message} {pieces rest : List (List UInt8)}
  {piece : List UInt8}

/-! ## Attempts -/

/-- The attempt to send that a call makes where it moves: the message, and how it goes. -/
def attempt? (l : VehicleLink) (id : Nat) (e : Event) : Option (Message × Reply) :=
  if e.moves id then
    ((l.calls.find? fun c => c.id = id).bind (·.stage.nextMessage?)).map fun m =>
      (m, (l.send m).reply)
  else none

/-- The attempts to send that a call makes in a run, in order. -/
def attemptsOf (l : VehicleLink) (id : Nat) : List (Instant × Event) → List (Message × Reply)
  | [] => []
  | (now, e) :: rest => (l.attempt? id e).toList ++ (l.step now e).1.attemptsOf id rest

theorem attemptsOf_concat (l : VehicleLink) (id : Nat) (es : List (Instant × Event))
    (now : Instant) (e : Event) :
    l.attemptsOf id (es ++ [(now, e)]) =
      l.attemptsOf id es ++ ((l.run es).1.attempt? id e).toList := by
  induction es generalizing l with
  | nil => exact List.append_nil _
  | cons first rest ih =>
      rw [List.cons_append, attemptsOf, ih, attemptsOf, List.append_assoc]
      rfl

/-- Attempts that all succeed. -/
def delivered (messages : List Message) : List (Message × Reply) :=
  messages.map fun m => (m, .ok ())

theorem delivered_messages (messages : List Message) :
    (delivered messages).map (·.1) = messages := by
  rw [delivered, List.map_map]
  exact List.map_id _

theorem reply_of_mem_delivered {a : Message × Reply} (h : a ∈ delivered messages) :
    a.2 = .ok () := by
  obtain ⟨m, -, rfl⟩ := List.mem_map.mp h
  rfl

theorem delivered_concat (messages : List Message) (m : Message) :
    delivered (messages ++ [m]) = delivered messages ++ [(m, .ok ())] := List.map_append

/-- How often a call moves in a run. -/
def movesIn (id : Nat) (es : List (Instant × Event)) : Nat := es.countP fun x => x.2.moves id

/-- The messages that a call transmits in a run, with their headers. -/
def headedBy (l : VehicleLink) (id : Nat) (es : List (Instant × Event)) :
    List (Header × Message) :=
  (l.record (fun e acts => if e.moves id then sentIn acts else []) es).map (·.2)

/-- The octets that a call transmits in a run. -/
def octetsBy (l : VehicleLink) (id : Nat) (es : List (Instant × Event)) : List UInt8 :=
  (l.headedBy id es).flatMap fun s => frameOf s.1 s.2

theorem headedBy_messages (l : VehicleLink) (id : Nat) (es : List (Instant × Event)) :
    (l.headedBy id es).map (·.2) = (l.sentBy id es).map (·.2) := by
  induction es generalizing l with
  | nil => rfl
  | cons first rest ih =>
      have hrest := ih (l.step first.1 first.2).1
      simp only [headedBy, sentBy, record, List.map_append] at hrest ⊢
      rw [hrest, messagesOfCall]
      cases first.2.moves id <;> simp

/-! ## One move -/

/-- A run that goes on only as long as a call is open, and does not give it up. -/
inductive WhileOpen (start : VehicleLink) (id : Nat) : List (Instant × Event) → Prop
  | begins : WhileOpen start id []
  | happens {es : List (Instant × Event)} (h : WhileOpen start id es)
    (hopen : (start.run es).1.isOpen id = true) (now : Instant) {event : Event}
    (hgiven : event ≠ .abandon id) : WhileOpen start id (es ++ [(now, event)])

/-- **How far a call has come with its messages**: on its way, at its end, or at a message that
could not be sent. -/
inductive Sending (start : VehicleLink) (id : Nat) (pieces : List (List UInt8))
    (es : List (Instant × Event)) : Prop
  | underway {sent : List (Instant × Message)} (k : Nat) (hk : k ≤ pieces.length)
    (h : Underway start id es (.shellDue (pieces.drop k)) sent)
    (hsent : sent.map (·.2) = (pieces.map shellPiece).take k)
    (htried : start.attemptsOf id es = delivered ((pieces.map shellPiece).take k))
    (hmoves : movesIn id es = k)
  | complete {sent : List (Instant × Message)} {ended : Instant}
    (h : Over start id es ended (.ok ()) sent) (hsent : sent.map (·.2) = pieces.map shellPiece)
    (htried : start.attemptsOf id es = delivered (pieces.map shellPiece))
  | failed {sent : List (Instant × Message)} {ended : Instant} (k : Nat) {m : Message}
    (e : LinkError) (hm : (pieces.map shellPiece)[k]? = some m)
    (h : Over start id es ended (.error e) sent)
    (hsent : sent.map (·.2) = (pieces.map shellPiece).take k)
    (htried : start.attemptsOf id es =
      delivered ((pieces.map shellPiece).take k) ++ [(m, .error e)])

theorem attempt?_eq_none (h : event ≠ .move id) : l.attempt? id event = none := by
  rw [attempt?, event.moves_eq_false h]
  rfl

/-- A call that sends a shell line, found by its number. -/
theorem find?_shellDue (ho : l.Orderly) {due : List (List UInt8)}
    (h : ∃ o ∈ l.roll, o.id = id ∧ o.stage = .shellDue due) :
    ∃ c : OpenCall, (l.calls.find? fun c => c.id = id) = some c ∧ c.id = id ∧
      c.stage = .shellDue due := by
  obtain ⟨o, ho', rfl, hstage⟩ := h
  obtain ⟨c, hc, rfl⟩ := exists_of_mem_roll ho'
  refine ⟨c, find?_id ho hc, rfl, ?_⟩
  change c.stage.untold = .shellDue due at hstage
  cases hcall : c.stage with
  | shellDue rest =>
      rw [hcall] at hstage
      exact hstage
  | _ =>
      rw [hcall] at hstage
      cases hstage

/-- With nothing left to send, the call ends. -/
theorem Underway.shell_ends (ho : (start.run es).1.Orderly)
    (h : Underway start id es (.shellDue []) sent) (now : Instant) :
    Over start id (es ++ [(now, Event.move id)]) now (.ok ()) sent ∧
      (start.run es).1.attempt? id (.move id) = none := by
  obtain ⟨c, hfind, hid, hstage⟩ := find?_shellDue ho h.call
  constructor
  · refine h.finished (Rests.refl _) hid ?_
    simp [step, move, hfind, moveCall, hstage]
  · simp [attempt?, Event.moves, hfind, hstage, CallStage.nextMessage?]

/-- The next message is tried. The call goes on behind it, or it ends with the failure. -/
theorem Underway.shell_tries (ho : (start.run es).1.Orderly)
    (h : Underway start id es (.shellDue (piece :: rest)) sent) (now : Instant) :
    ∃ reply, (start.run es).1.attempt? id (.move id) = some (shellPiece piece, reply) ∧
      ((reply = .ok () ∧
          Underway start id (es ++ [(now, Event.move id)]) (.shellDue rest)
            (sent ++ [(now, shellPiece piece)])) ∨
        ∃ e, reply = .error e ∧
          Over start id (es ++ [(now, Event.move id)]) now (.error e) sent) := by
  obtain ⟨c, hfind, hid, hstage⟩ := find?_shellDue ho h.call
  let m : Message := shellPiece piece
  have hstep : (start.run es).1.step now (.move id) =
      after ((start.run es).1.send m) c fun l => (l.restage id (.shellDue rest), []) := by
    simp [step, move, hfind, moveCall, hstage, hid, m]
  have htried : (start.run es).1.attempt? id (.move id) =
      some (m, ((start.run es).1.send m).reply) := by
    simp [attempt?, Event.moves, hfind, hstage, CallStage.nextMessage?, m]
  have hrests := ((start.run es).1.send_rests m).1
  refine ⟨_, htried, ?_⟩
  rcases (start.run es).1.send_cases m with ⟨e, hreply, hacts⟩ | ⟨peer, header, hreply, hacts⟩
  · refine .inr ⟨e, hreply, h.finished hrests hid (hstep.trans ?_)⟩
    simp [after, hreply, hacts]
  · refine .inl ⟨hreply, ?_⟩
    have hnext : (start.run es).1.step now (.move id) =
        (((start.run es).1.send m).link.restage id (.shellDue rest),
          [.sends peer header m]) := by
      rw [hstep, after, hreply, hacts]
      rfl
    exact h.restaged [m] hrests hnext rfl rfl

/-- **One move of the call**: the next message is tried, or the call ends. -/
theorem Sending.move (ho : (start.run es).1.Orderly) (h : Sending start id pieces es)
    (hopen : (start.run es).1.isOpen id = true) (now : Instant) :
    Sending start id pieces (es ++ [(now, Event.move id)]) := by
  cases h with
  | complete h | failed k e hm h =>
      rw [h.closed] at hopen
      cases hopen
  | underway k hk h hsent htried hmoves =>
      have hcounted : movesIn id (es ++ [(now, Event.move id)]) = k + 1 := by
        simp [movesIn, Event.moves, ← hmoves]
      rcases Nat.lt_or_eq_of_le hk with hmore | rfl
      · rw [List.drop_eq_getElem_cons hmore] at h
        have hpiece : (pieces.map shellPiece)[k]? = some (shellPiece pieces[k]) := by
          rw [List.getElem?_map, List.getElem?_eq_getElem hmore]
          rfl
        have htake : (pieces.map shellPiece).take (k + 1) =
            (pieces.map shellPiece).take k ++ [shellPiece pieces[k]] := by
          rw [List.take_add_one, hpiece]
          rfl
        obtain ⟨reply, hattempt, ⟨rfl, hnext⟩ | ⟨e, rfl, hover⟩⟩ := h.shell_tries ho now
        · refine .underway (k + 1) hmore hnext ?_ ?_ hcounted
          · rw [List.map_append, hsent, htake]
            rfl
          · rw [attemptsOf_concat, htried, hattempt, htake, delivered_concat]
            rfl
        · refine .failed k e hpiece hover hsent ?_
          rw [attemptsOf_concat, htried, hattempt]
          rfl
      · rw [List.drop_length] at h
        obtain ⟨hover, hattempt⟩ := h.shell_ends ho now
        rw [← List.map_take, List.take_length] at hsent htried
        refine .complete hover hsent ?_
        rw [attemptsOf_concat, htried, hattempt]
        exact List.append_nil _

/-- Nothing else moves the call. -/
theorem Sending.other (h : Sending start id pieces es)
    (hopen : (start.run es).1.isOpen id = true) (now : Instant) (hmove : event ≠ .move id)
    (hgiven : event ≠ .abandon id) : Sending start id pieces (es ++ [(now, event)]) := by
  cases h with
  | complete h | failed k e hm h =>
      rw [h.closed] at hopen
      cases hopen
  | underway k hk h hsent htried hmoves =>
      refine .underway k hk (h.other now hmove hgiven) hsent ?_ ?_
      · rw [attemptsOf_concat, htried, attempt?_eq_none hmove]
        exact List.append_nil _
      · simp [movesIn, Event.moves_eq_false hmove, ← hmoves]

/-- **Where the call stands** in a run. -/
theorem sending_of_whileOpen (hl : start.Reached)
    (hbegun : Underway start id [] (.shellDue pieces) [])
    (h : WhileOpen start id es) : Sending start id pieces es := by
  induction h with
  | begins =>
      exact .underway 0 (Nat.zero_le _) hbegun rfl rfl rfl
  | happens h hopen now hgiven ih =>
      rename_i es event
      by_cases hmove : event = .move id
      · exact hmove ▸ ih.move (hl.run es).orderly hopen now
      · exact ih.other hopen now hmove hgiven

/-! ## The line -/

/-- **What becomes of a shell line** in a run from the beginning of its call. -/
structure SendsShellLine (start : VehicleLink) (id : Nat) (text : String)
    (es : List (Instant × Event)) : Prop where
  /-- The messages carry the line. -/
  carries : IsShellLine (shellLine text) (shellMessages text)
  /-- They are tried in order, each once. -/
  tries : (start.attemptsOf id es).map (·.1) =
    (shellMessages text).take (start.attemptsOf id es).length
  /-- If one cannot be sent, exactly the messages before it were sent, and the call has ended
  with the failure. -/
  fails : ∀ k m e, (start.attemptsOf id es)[k]? = some (m, .error e) →
    (start.sentBy id es).map (·.2) = (shellMessages text).take k ∧
      (start.attemptsOf id es).length = k + 1 ∧
      (start.repliesTo id es).map (·.2) = [.error e]
  /-- If every attempt has succeeded, what was tried was sent, and the call has not ended or the
  whole line was sent. -/
  succeeds : (∀ a ∈ start.attemptsOf id es, a.2 = .ok ()) →
    (start.sentBy id es).map (·.2) = (start.attemptsOf id es).map (·.1) ∧
      (start.repliesTo id es = [] ∨ (start.sentBy id es).map (·.2) = shellMessages text ∧
        (start.repliesTo id es).map (·.2) = [.ok ()])
  /-- The call has ended with the move after its last message at the latest. -/
  ends : (shellMessages text).length < movesIn id es → start.repliesTo id es ≠ []
  /-- What was sent is read from the octets that went out. -/
  heard : (start.network.dialect.messagesOf (start.octetsBy id es)).map (·.2) =
    (start.sentBy id es).map (·.2)
  /-- A call that has ended well has sent octets from which messages are read that carry the
  line. -/
  whole : (start.repliesTo id es).map (·.2) = [.ok ()] →
    IsShellLine (shellLine text)
      ((start.network.dialect.messagesOf (start.octetsBy id es)).map (·.2))

/-- A call sends messages of the station's kinds. -/
theorem own_of_mem_headedBy {s : Header × Message} (h : s ∈ l.headedBy id es) :
    s.2.kind.isOwn = true := by
  induction es generalizing l with
  | nil => cases h
  | cons first rest ih =>
      rw [headedBy, record, List.map_append, List.mem_append] at h
      rcases h with hnow | hlater
      · rw [List.map_map] at hnow
        obtain ⟨x, hx, rfl⟩ := List.mem_map.mp hnow
        split at hx
        · exact (l.step_numbers first.1 first.2).numbered.own x hx
        · cases hx
      · exact ih hlater

theorem messagesOf_octetsBy (l : VehicleLink) (id : Nat) (es : List (Instant × Event)) :
    (l.network.dialect.messagesOf (l.octetsBy id es)).map (·.2) = (l.sentBy id es).map (·.2) := by
  rw [octetsBy, messagesOf_frameOf _ fun s hs => own_of_mem_headedBy hs, headedBy_messages]

/-- The attempts up to the one that failed, which is the last. -/
theorem tried_of_failed {k : Nat} {e : LinkError} (hm : messages[k]? = some m)
    (htried : start.attemptsOf id es = delivered (messages.take k) ++ [(m, .error e)]) :
    (start.attemptsOf id es).length = k + 1 ∧
      (start.attemptsOf id es).map (·.1) = messages.take (k + 1) ∧
      ∀ j m' e', (start.attemptsOf id es)[j]? = some (m', .error e') → j = k ∧ e' = e := by
  obtain ⟨hk, -⟩ := List.getElem?_eq_some_iff.mp hm
  have hlength : (delivered (messages.take k)).length = k := by
    rw [delivered, List.length_map, List.length_take, Nat.min_eq_left (Nat.le_of_lt hk)]
  refine ⟨?_, ?_, fun j m' e' hj => ?_⟩
  · rw [htried, List.length_append, hlength]
    rfl
  · rw [htried, List.map_append, delivered_messages, List.take_add_one, hm]
    rfl
  · rw [htried] at hj
    rcases Nat.lt_or_ge j k with hbefore | hbehind
    · rw [List.getElem?_append_left (hlength.symm ▸ hbefore)] at hj
      have hok := reply_of_mem_delivered (List.mem_of_getElem? hj)
      cases hok
    · rw [List.getElem?_append_right (hlength.symm ▸ hbehind), hlength] at hj
      have hlast : j - k = 0 := by
        have := (List.getElem?_eq_some_iff.mp hj).1
        simpa using this
      rw [hlast] at hj
      cases hj
      exact ⟨by omega, rfl⟩

/-- A call of which no attempt has failed. -/
theorem sendsShellLine_of_delivered {k : Nat} (hk : k ≤ (shellMessages text).length)
    (htried : start.attemptsOf id es = delivered ((shellMessages text).take k))
    (hsent : (start.sentBy id es).map (·.2) = (shellMessages text).take k)
    (hstands : start.repliesTo id es = [] ∧ movesIn id es = k ∨
      k = (shellMessages text).length ∧ (start.repliesTo id es).map (·.2) = [.ok ()]) :
    SendsShellLine start id text es := by
  have hheard := start.messagesOf_octetsBy id es
  refine ⟨isShellLine_shellMessages text, ?tries, ?fails, ?succeeds, ?ends, hheard, ?whole⟩
  case tries =>
    rw [htried, delivered_messages, delivered, List.length_map, List.length_take,
      Nat.min_eq_left hk]
  case fails =>
    intro j m e hj
    rw [htried] at hj
    cases reply_of_mem_delivered (List.mem_of_getElem? hj)
  case succeeds =>
    intro _
    rw [htried, delivered_messages, hsent]
    rcases hstands with ⟨hgoesOn, -⟩ | ⟨rfl, hends⟩
    · exact ⟨rfl, .inl hgoesOn⟩
    · exact ⟨rfl, .inr ⟨List.take_length, hends⟩⟩
  case ends =>
    rintro hlate hgoesOn
    rcases hstands with ⟨-, rfl⟩ | ⟨-, hends⟩
    · exact Nat.not_lt_of_le hk hlate
    · rw [hgoesOn] at hends
      cases hends
  case whole =>
    intro hreplies
    rcases hstands with ⟨hgoesOn, -⟩ | ⟨rfl, -⟩
    · rw [hgoesOn] at hreplies
      cases hreplies
    · rw [hheard, hsent, List.take_length]
      exact isShellLine_shellMessages text

theorem Sending.sendsShellLine (h : Sending start id (shellPieces text) es) :
    SendsShellLine start id text es := by
  cases h with
  | underway k hk h hsent htried hmoves =>
      have hle : k ≤ (shellMessages text).length := (List.length_map shellPiece).symm ▸ hk
      exact sendsShellLine_of_delivered hle htried (h.sent ▸ hsent) (.inl ⟨h.goesOn, hmoves⟩)
  | complete h hsent htried =>
      have hends : (start.repliesTo id es).map (·.2) = [.ok ()] := congrArg (List.map _) h.ends
      rw [← shellMessages, ← List.take_length (l := shellMessages text)] at hsent htried
      exact sendsShellLine_of_delivered (Nat.le_refl _) htried (h.sent ▸ hsent) (.inr ⟨rfl, hends⟩)
  | failed k e hm h hsent htried =>
      obtain ⟨hlength, hmessages, hfailure⟩ := tried_of_failed hm htried
      have hends : (start.repliesTo id es).map (·.2) = [.error e] := congrArg (List.map _) h.ends
      refine ⟨isShellLine_shellMessages text, ?tries, ?fails, ?succeeds, ?ends,
        start.messagesOf_octetsBy id es, ?whole⟩
      case tries => rw [hlength, hmessages, shellMessages]
      case fails =>
        intro j m' e' hj
        obtain ⟨rfl, rfl⟩ := hfailure j m' e' hj
        exact ⟨h.sent ▸ hsent, hlength, hends⟩
      case succeeds =>
        intro hall
        cases hall _ (htried ▸ List.mem_append_right _ List.mem_cons_self)
      case ends =>
        rw [h.ends]
        exact fun _ => List.cons_ne_nil _ _
      case whole =>
        intro hreplies
        rw [hends] at hreplies
        cases hreplies

/-- **A shell line is sent in pieces, up to the first that cannot be sent**, whatever happens
beside it. Without a vehicle nothing is sent. -/
theorem shell_line_is_sent (hl : l.Reached) (hid : l.isOpen id = false) (now : Instant)
    (text : String) :
    (l.vehicle = none →
      l.step now (.call id (.shell text)) = (l, [.ends id (.error .notConnected)])) ∧
    (l.vehicle ≠ none → (l.step now (.call id (.shell text))).2 = [] ∧
      ∀ es, WhileOpen (l.step now (.call id (.shell text))).1 id es →
        SendsShellLine (l.step now (.call id (.shell text))).1 id text es) := by
  have hfresh := step_call_of_fresh hid now (.shell text)
  constructor
  · intro hvehicle
    rw [hfresh, beginFresh, hvehicle]
    rfl
  · intro hvehicle
    obtain ⟨target, htarget⟩ := Option.ne_none_iff_exists'.mp hvehicle
    have hbegun : l.step now (.call id (.shell text)) =
        (l.opened ⟨id, .other, .shellDue (shellPieces text)⟩, []) := by
      rw [hfresh, beginFresh, htarget]
    have hreached : (l.step now (.call id (.shell text))).1.Reached := hl.step now _
    rw [hbegun] at hreached ⊢
    refine ⟨rfl, fun es hes => (sending_of_whileOpen hreached ⟨?_, rfl, rfl⟩ hes).sendsShellLine⟩
    refine ⟨⟨id, .other, .shellDue (shellPieces text)⟩, ?_, rfl, rfl⟩
    exact (roll_opened l _) ▸ List.mem_append_right _ List.mem_cons_self

/-- A link on which the third transmission fails, with a copter on the other side. -/
def faltering : VehicleLink :=
  ((new .default { Network.reliable with fault := fun n => if n = 2 then some "lost" else none }
    (some ⟨Network.localAddress, 14550⟩)).run [(0, contact)]).1

/-- The first letters of a line. -/
def longText : String := String.ofList (List.replicate 70 'x')

/-- The link when the call to send a line of two pieces has begun. -/
def falteringBegun : VehicleLink := (faltering.step 0 (.call 0 (.shell longText))).1

/-- Between the two pieces the station shows that it is there. The second piece is lost: the first
one was sent, and the call ends with the failure. -/
theorem shell_line_is_sent_faltering : ∃ es, WhileOpen falteringBegun 0 es ∧
    (falteringBegun.sentBy 0 es).map (·.2) = (shellMessages longText).take 1 ∧
    (falteringBegun.repliesTo 0 es).map (·.2) = [.error (.io "lost")] := by
  have hreached : faltering.Reached := (Reached.new _ _ _).run _
  have hid : faltering.isOpen 0 = false := by decide +kernel
  have hvehicle : faltering.vehicle ≠ none := by decide +kernel
  let es : List (Instant × Event) := [(0, .move 0), (0, .heartbeat), (0, .move 0)]
  have hbegan : falteringBegun.isOpen 0 = true := by decide +kernel
  have hfirst : (falteringBegun.run [(0, .move 0)]).1.isOpen 0 = true := by decide +kernel
  have hsecond : (falteringBegun.run [(0, .move 0), (0, .heartbeat)]).1.isOpen 0 = true := by
    decide +kernel
  have hmoved : WhileOpen falteringBegun 0 [(0, .move 0)] := .happens .begins hbegan 0 nofun
  have hshown : WhileOpen falteringBegun 0 [(0, .move 0), (0, .heartbeat)] :=
    .happens hmoved hfirst 0 nofun
  have hes : WhileOpen falteringBegun 0 es := .happens hshown hsecond 0 nofun
  have hsends := ((shell_line_is_sent hreached hid 0 longText).2 hvehicle).2 es hes
  have hlost : ((falteringBegun.attemptsOf 0 es)[1]?).map (·.2) = some (.error (.io "lost")) := by
    decide +kernel
  obtain ⟨⟨m, reply⟩, hattempt, rfl⟩ := Option.map_eq_some_iff.mp hlost
  obtain ⟨hsent, -, hends⟩ := hsends.fails 1 m _ hattempt
  exact ⟨es, hes, hsent, hends⟩

end VehicleLink

end GroundStation
