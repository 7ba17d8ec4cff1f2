import GroundStation.Proofs.Link.Conduct

/-!
# How requests are answered

An acknowledgement names a command and not a request, so the link has to find out which
request it is for. This module says how it does that, for every order in which requests
can start, end and be superseded and acknowledgements can come in.

A request that starts while the table has no entry for its command takes the first
acknowledgement of the command that comes in; one that starts while there is an entry
passes one over and takes the second. If a newer request of the command starts before
that, it is superseded. The count is over the history of the command from the start of the
request on (`VehicleLink.history`), in which nothing else stands.

## Main results

* `VehicleLink.run_steps`: a run of a link, as its desk sees it.
* `VehicleLink.answers_are_counted`: what every link that is reached promises.
-/

namespace GroundStation

open Mavlink

namespace VehicleLink

variable {l l' : VehicleLink} {c : OpenCall} {r : CommandRequest} {command : CommandId}

/-! ## The history of a command -/

/-- Does an event start a request of a command? The link then has an open request of the
command with a ticket that was not given before. -/
def starts (l : VehicleLink) (command : CommandId) (now : Instant) (e : Event) : Bool :=
  (l.step now e).1.requests.any fun r =>
    r.order.commandId = command && l.acks.nextTicket ≤ r.ticket

/-- What an event brings for the requests of a command. -/
def notes (l : VehicleLink) (command : CommandId) (now : Instant) (e : Event) : List AckNote :=
  (if l.starts command now e then [.restarted] else []) ++
    ((l.heard e).filter fun a => a.command = command && a.isTerminal).map (.answered ·.result)

/-- The history of a command in a run. -/
def history (l : VehicleLink) (command : CommandId) : List (Instant × Event) → List AckNote
  | [] => []
  | (now, e) :: rest => l.notes command now e ++ (l.step now e).1.history command rest

/-- What the desk hears is what its requests take note of. -/
private theorem notesOf_hears (command : CommandId) (acks : List CommandAck) :
    notesOf command (acks.map .hears) =
      (acks.filter fun a => a.command = command && a.isTerminal).map (.answered ·.result) := by
  induction acks with
  | nil => rfl
  | cons a rest ih =>
      rw [List.map_cons, notesOf_cons, ih]
      by_cases h : a.command = command ∧ a.isTerminal = true
      · simp [Happening.note?, h]
      · simp only [Happening.note?, if_neg h]
        rw [List.filter_cons_of_neg (by simpa using h)]
        rfl

/-- Only a start gives a ticket. -/
private theorem starts_eq_false {now : Instant} {e : Event}
    (h : ∀ x, (l.step now e).1.desk.claims x → x.ticket < l.acks.nextTicket) :
    l.starts command now e = false := by
  rw [starts, List.any_eq_false]
  intro r hr
  have hold : r.claim.ticket < l.acks.nextTicket := h _ (List.mem_map_of_mem hr)
  have hnew : ¬ l.acks.nextTicket ≤ r.ticket := Nat.not_le_of_lt hold
  simp [hnew]

/-- The start of a request is seen on the link. -/
private theorem starts_of_start (ho : l.Orderly) {now : Instant} {e : Event}
    {started : CommandId} (h : (l.step now e).1.desk = l.desk.start started) :
    l.starts command now e = decide (started = command) := by
  have hclaims : ∀ x, x ∈ (l.step now e).1.requests.map (·.claim) ↔
      (l.desk.start started).claims x := fun x => iff_of_eq (congrFun (congrArg Desk.claims h) x)
  rw [Bool.eq_iff_iff, starts, List.any_eq_true, decide_eq_true_eq]
  constructor
  · rintro ⟨r, hr, hnew⟩
    rw [Bool.and_eq_true, decide_eq_true_eq, decide_eq_true_eq] at hnew
    rcases (hclaims r.claim).mp (List.mem_map_of_mem hr) with hclaim | ⟨x, hx, hclaim⟩
    · exact (congrArg Claim.command hclaim).symm.trans hnew.1
    · have hold := ho.sound.claim_fresh hx
      rw [← Claim.told_ticket, ← hclaim] at hold
      exact absurd hold (Nat.not_lt_of_le hnew.2)
  · rintro rfl
    obtain ⟨r, hr, hclaim⟩ := List.mem_map.mp ((hclaims _).mpr (.inl rfl))
    refine ⟨r, hr, ?_⟩
    rw [Bool.and_eq_true, decide_eq_true_eq, decide_eq_true_eq]
    exact ⟨congrArg Claim.command hclaim, Nat.le_of_eq (congrArg Claim.ticket hclaim).symm⟩

/-- **One event, as the desk sees it.** -/
theorem step_steps (ho : l.Orderly) (now : Instant) (e : Event) :
    ∃ hs, Desk.Steps l.desk hs (l.step now e).1.desk ∧
      ∀ command, notesOf command hs = l.notes command now e := by
  cases step_conduct ho now e with
  | starts started h hnone =>
      refine ⟨[.starts started], h.desk ▸ .one (.starts _ _), fun command => ?_⟩
      rw [notes, hnone, starts_of_start ho h.desk, notesOf_cons, Happening.note?]
      by_cases heq : started = command <;> simp [heq, notesOf]
  | @ends x hx h hnone =>
      refine ⟨[.ends x], ?_, fun command => ?_⟩
      · rw [h.desk]
        exact .one (.ends hx)
      · have hstarts : l.starts command now e = false := by
          refine starts_eq_false fun y hy => ?_
          rw [h.desk] at hy
          exact ho.sound.claim_fresh hy.1
        rw [notes, hnone, hstarts]
        rfl
  | hears h =>
      refine ⟨_, h.steps, fun command => ?_⟩
      have hstarts : l.starts command now e = false := by
        refine starts_eq_false fun x hx => ?_
        obtain ⟨y, hy, hticket⟩ := Desk.old_of_hears h.steps hx
        exact hticket ▸ ho.sound.claim_fresh hy
      rw [notesOf_hears, notes, hstarts]
      rfl

/-- **A run of a link, as its desk sees it.** -/
theorem run_steps (ho : l.Orderly) (es : List (Instant × Event)) :
    ∃ hs, Desk.Steps l.desk hs (l.run es).1.desk ∧
      ∀ command, notesOf command hs = l.history command es := by
  induction es generalizing l with
  | nil => exact ⟨[], .nil _, fun _ => rfl⟩
  | cons first rest ih =>
      obtain ⟨now, e⟩ := first
      obtain ⟨hs, hsteps, hnotes⟩ := step_steps ho now e
      obtain ⟨later, hlater, hnotes'⟩ := ih (ho.step now e)
      refine ⟨hs ++ later, hsteps.append hlater, fun command => ?_⟩
      rw [notesOf_append, hnotes, hnotes', history]

/-! ## Counting -/

theorem claim_mem (hr : r ∈ l.requests) : l.desk.claims r.claim := List.mem_map_of_mem hr

/-- A request that an event starts has been told nothing, and the entry waits for it. -/
theorem waits_of_start (ho : l.Orderly) {now : Instant} {e : Event}
    (hr : r ∈ (l.step now e).1.requests) (hnew : l.acks.nextTicket ≤ r.ticket) :
    (l.step now e).1.desk.Waits r.ticket r.order.commandId
      (l.acks.find? r.order.commandId).isSome := by
  have hnot : ∀ {x : Claim}, l.desk.claims x → x.ticket ≠ r.ticket := fun hx =>
    Nat.ne_of_lt (Nat.lt_of_lt_of_le (ho.sound.claim_fresh hx) hnew)
  have hclaim := claim_mem hr
  cases step_conduct ho now e with
  | starts started h hnone =>
      rw [h.desk] at hclaim ⊢
      rcases hclaim with hclaim | ⟨x, hx, hclaim⟩
      · obtain ⟨hticket, hcommand, -⟩ : r.ticket = l.acks.nextTicket ∧
            r.order.commandId = started ∧ r.verdict = none := by
          simpa [CommandRequest.claim, desk] using hclaim
        rw [hticket, hcommand]
        exact ⟨.inl rfl, (AckTable.find?_start _ _ _).trans (if_pos rfl)⟩
      · exact absurd ((congrArg Claim.ticket hclaim).trans Claim.told_ticket).symm (hnot hx)
  | ends hx h hnone =>
      rw [h.desk] at hclaim
      exact absurd rfl (hnot hclaim.1)
  | hears h =>
      obtain ⟨x, hx, hticket⟩ := Desk.old_of_hears h.steps hclaim
      exact absurd hticket (hnot hx)

/-- What a request has been told after a run, counted off the history of its command. -/
theorem verdict_run (ho : l.Orderly) {now : Instant} {e : Event}
    {later : List (Instant × Event)} {r' : CommandRequest}
    (hr : r ∈ (l.step now e).1.requests) (hnew : l.acks.nextTicket ≤ r.ticket)
    (hr' : r' ∈ ((l.step now e).1.run later).1.requests) (hticket : r'.ticket = r.ticket) :
    r'.claim = ⟨r.ticket, r.order.commandId,
      verdictAfter (marksOf (l.acks.find? r.order.commandId).isSome)
        ((l.step now e).1.history r.order.commandId later)⟩ := by
  have hwaits := waits_of_start ho hr hnew
  obtain ⟨hs, hsteps, hnotes⟩ := run_steps (ho.step now e) later
  have hclaim := Desk.verdict_steps (ho.step now e).sound hwaits hsteps (claim_mem hr') hticket
  rwa [hnotes] at hclaim

/-- The call of a number. -/
theorem find?_id (ho : l.Orderly) (hc : c ∈ l.calls) :
    l.calls.find? (fun o => o.id = c.id) = some c := by
  obtain ⟨before, after, hsplit, hother⟩ := exists_split ho.ids hc
  rw [hsplit, List.find?_append, List.find?_eq_none.mpr, List.find?_cons_of_pos (by simp)]
  · rfl
  · intro o ho'
    simpa using hother o (List.mem_append_left _ ho')

/-- Whoever the table has waiting is open and has been told nothing. -/
theorem waiting_request (ho : l.Orderly) {e : PendingAck} (he : e ∈ l.acks.entries)
    (hwaiting : e.waiting = true) : ∃ r ∈ l.requests,
      r.ticket = e.ticket ∧ r.order.commandId = e.command ∧ r.verdict = none := by
  have hclaim := ho.sound.waiter_open (ho.sound.keyed.find? he) hwaiting
  obtain ⟨r, hr, heq⟩ := List.mem_map.mp hclaim
  exact ⟨r, hr, congrArg Claim.ticket heq, congrArg Claim.command heq,
    congrArg Claim.verdict heq⟩

/-- The end of a request that has been told something leaves the table as it is. -/
theorem dropped_acks (ho : l.Orderly) (hc : c ∈ l.calls) (hr : c.stage.request? = some r)
    (hverdict : r.verdict ≠ none) : (l.dropped c).acks = l.acks := by
  have hclaim : l.desk.claims r.claim := claim_mem (List.mem_filterMap.mpr ⟨c, hc, hr⟩)
  have hfinish : (l.dropped c).acks = l.acks.finish r.order.commandId r.ticket := by
    unfold dropped
    cases hstage : c.stage <;> simp_all [CallStage.request?, CallStage.ticket?]
  rw [hfinish]
  refine AckTable.finish_eq_self fun e he hcommand => ?_
  exact ho.sound.told_left hclaim hverdict (ho.sound.keyed.find? he)

/-- What one acknowledgement does to the desk. -/
theorem handle_desk (ho : l.Orderly) (h : Header) (a : CommandAck) :
    (l.handle h (.commandAck a)).1.desk = l.desk ∨
      (l.handle h (.commandAck a)).1.desk = l.desk.hear a := by
  change (l.listen h (.commandAck a)).1.desk = _ ∨ (l.listen h (.commandAck a)).1.desk = _
  unfold listen
  split
  · exact .inl rfl
  · split
    · exact .inr (becomes_acknowledge ho a).desk
    · exact .inl rfl

/-- A request that a message tells something has been answered by it. -/
theorem answered_of_told (ho : l.Orderly) {h : Header} {a : CommandAck} {r' : CommandRequest}
    (hr : r ∈ l.requests) (hnone : r.verdict = none)
    (hr' : r' ∈ (l.handle h (.commandAck a)).1.requests) (hticket : r'.ticket = r.ticket)
    (htold : r'.verdict ≠ none) :
    r'.verdict = some (.answered a.result) ∧ (l.acks.resolve a).2 = some r.ticket := by
  have hclaim := claim_mem hr'
  rcases handle_desk ho h a with hdesk | hdesk <;> rw [hdesk] at hclaim
  · have heq := ho.sound.claim_unique hclaim (claim_mem hr) hticket
    exact absurd ((congrArg Claim.verdict heq).trans hnone) htold
  · obtain ⟨x, hx, heq⟩ := hclaim
    have hxticket : x.ticket = r.ticket :=
      (Claim.told_ticket.symm.trans (congrArg Claim.ticket heq).symm).trans hticket
    obtain rfl := ho.sound.claim_unique hx (claim_mem hr) hxticket
    by_cases hk : (l.desk.acks.resolve a).2 = some r.claim.ticket
    · refine ⟨?_, hk⟩
      have htold' := congrArg Claim.verdict heq
      rw [Claim.told, if_pos hk] at htold'
      exact htold'
    · rw [Claim.told_of_ne hk] at heq
      exact absurd ((congrArg Claim.verdict heq).trans hnone) htold

/-- An acknowledgement of another command. -/
theorem acknowledge_other (ho : l.Orderly) {a : CommandAck} (hc : c ∈ l.calls)
    (hr : c.stage.request? = some r) (hcommand : r.order.commandId ≠ a.command) :
    c ∈ (l.acknowledge a).calls ∧
      (l.acknowledge a).acks.find? r.order.commandId = l.acks.find? r.order.commandId := by
  constructor
  · unfold acknowledge
    split
    · rename_i acks ticket heq
      refine mem_tell _ hc fun r' hr' hticket => hcommand ?_
      obtain rfl : r = r' := Option.some.inj (hr.symm.trans hr')
      have hk : (l.acks.resolve a).2 = some ticket := congrArg Prod.snd heq
      obtain ⟨-, e, he, -, -, hown⟩ := AckTable.resolve_told.mp hk
      have hclaim : l.desk.claims r.claim := claim_mem (List.mem_filterMap.mpr ⟨c, hc, hr⟩)
      exact (ho.sound.owner hclaim he (hown.trans hticket.symm)).1
    · exact hc
  · rw [acknowledge_acks, AckTable.find?_resolve_of_ne hcommand]

/-- An acknowledgement that says that its command is in progress, or that is of another
system. -/
theorem handle_unmoved {h : Header} {a : CommandAck} (hcases : a.isTerminal = false ∨
    ∀ vehicle, l.vehicle = some vehicle → h.sender.system ≠ vehicle.system) :
    (l.handle h (.commandAck a)).1 = l := by
  change (l.listen h (.commandAck a)).1 = l
  unfold listen
  cases hvehicle : l.vehicle with
  | none => rfl
  | some vehicle =>
      dsimp only
      split
      · rename_i hsystem
        rcases hcases with hterm | hother
        · change l.acknowledge a = l
          rw [acknowledge, AckTable.resolve_inProgress hterm]
        · exact absurd hsystem (hother vehicle hvehicle)
      · rfl

/-- The next move of a request that is told something while it waits. -/
theorem move_of_awaiting (ho : l.Orderly) (hc : c ∈ l.calls) (hstage : c.stage = .awaiting r)
    {v : Verdict} (hverdict : r.verdict = some v) (now : Instant) :
    l.move now c.id = l.finish c (r.reply v) := by
  simp [move, find?_id ho hc, moveCall, hstage, hverdict]

/-- The next move of a request that is to be sent. -/
theorem move_of_transmitting (ho : l.Orderly) (hc : c ∈ l.calls)
    (hstage : c.stage = .transmitting r) (now : Instant) :
    l.move now c.id = after (l.send r.message) c fun l =>
      (l.restage c.id (.awaiting (r.sent now)), []) := by
  simp [move, find?_id ho hc, moveCall, hstage]

/-- A transmission fails, and then nothing is sent, or its message is. -/
theorem send_cases (l : VehicleLink) (m : Message) :
    (∃ e, (l.send m).reply = .error e ∧ (l.send m).acts = []) ∨
      ∃ peer header, (l.send m).reply = .ok () ∧ (l.send m).acts = [.sends peer header m] := by
  unfold send
  split
  · exact .inl ⟨_, rfl, rfl⟩
  · dsimp only
    split
    · exact .inl ⟨_, rfl, rfl⟩
    · exact .inr ⟨_, _, rfl, rfl⟩

/-! ## Every link that is reached -/

/-- A link at some point of a run: at its beginning, after an event, or in the middle of a
datagram. -/
inductive Reached : VehicleLink → Prop
  | new (config : LinkConfig) (network : Network) (peer : Option Endpoint) :
    Reached (.new config network peer)
  | step {l : VehicleLink} (h : Reached l) (now : Instant) (e : Event) : Reached (l.step now e).1
  | within {l : VehicleLink} (h : Reached l) (sender : Endpoint)
    (messages : List (Header × Message)) : Reached ((l.notePeer sender).handleAll messages).1

theorem Reached.orderly (h : l.Reached) : l.Orderly := by
  induction h with
  | new config network peer => exact orderly_new config network peer
  | step h now e ih => exact ih.step now e
  | within h sender messages ih =>
      exact (handleAll_hears ((notePeer_sameDesk _ sender).orderly ih) messages).orderly

theorem Reached.run (h : l.Reached) (es : List (Instant × Event)) : (l.run es).1.Reached := by
  induction es generalizing l with
  | nil => exact h
  | cons first rest ih => exact ih (h.step first.1 first.2)

/-- **What a link promises to its requests**, from where it stands on. -/
structure AnswersCounted (l : VehicleLink) : Prop where
  /-- No two open requests have the same ticket. -/
  tickets : (l.requests.map (·.ticket)).Nodup
  /-- What a request that starts now has been told later, as long as it is open, is counted
  off the history of its command since then: with one mark if there is an entry now. -/
  counted : ∀ now e later r r', r ∈ (l.step now e).1.requests → l.acks.nextTicket ≤ r.ticket →
    r' ∈ ((l.step now e).1.run later).1.requests → r'.ticket = r.ticket →
    r'.order.commandId = r.order.commandId ∧
      r'.verdict = verdictAfter (marksOf (l.acks.find? r.order.commandId).isSome)
        ((l.step now e).1.history r.order.commandId later)
  /-- A message that tells a request something is an acknowledgement of its command that
  says how the command ended; the request is the youngest one of that command, and the
  only one that is told something. -/
  told_by_one : ∀ h a r r', r ∈ l.requests → r.verdict = none →
    r' ∈ (l.handle h (.commandAck a)).1.requests → r'.ticket = r.ticket → r'.verdict ≠ none →
    r'.verdict = some (.answered a.result) ∧ a.isTerminal = true ∧
      r.order.commandId = a.command ∧
      (∀ s ∈ l.requests, s.order.commandId = a.command → s.ticket ≤ r.ticket) ∧
      ∀ s ∈ l.requests, ∀ s' ∈ (l.handle h (.commandAck a)).1.requests, s.verdict = none →
        s'.ticket = s.ticket → s'.verdict ≠ none → s.ticket = r.ticket
  /-- What a request has been told stays as long as it is open. -/
  told_once : ∀ later r r', r ∈ l.requests → r.verdict ≠ none →
    r' ∈ (l.run later).1.requests → r'.ticket = r.ticket → r'.verdict = r.verdict
  /-- A request that has ended is never open again, and the table has nobody waiting for
  it. -/
  ended : ∀ later k, k < l.acks.nextTicket → (∀ r ∈ l.requests, r.ticket ≠ k) →
    (∀ r ∈ (l.run later).1.requests, r.ticket ≠ k) ∧
      ∀ e ∈ (l.run later).1.acks.entries, e.ticket = k → e.waiting = false
  /-- An acknowledgement that says that its command is in progress, or that is of another
  system, changes nothing at all. -/
  unmoved : ∀ h a, (a.isTerminal = false ∨
      ∀ vehicle, l.vehicle = some vehicle → h.sender.system ≠ vehicle.system) →
    (l.handle h (.commandAck a)).1 = l
  /-- An acknowledgement changes nothing for the requests of other commands. -/
  others : ∀ h a c r, c ∈ l.calls → c.stage.request? = some r → r.order.commandId ≠ a.command →
    c ∈ (l.handle h (.commandAck a)).1.calls ∧
      (l.handle h (.commandAck a)).1.acks.find? r.order.commandId =
        l.acks.find? r.order.commandId
  /-- Whoever the table has waiting is open and has been told nothing. -/
  waiters : ∀ e ∈ l.acks.entries, e.waiting = true → ∃ r ∈ l.requests,
    r.ticket = e.ticket ∧ r.order.commandId = e.command ∧ r.verdict = none
  /-- A request that waits ends with the next move once it is told something: superseded, or
  answered. It leaves the table as it is, and the entry of a newer request with it. -/
  told_ends : ∀ c ∈ l.calls, ∀ r v now, c.stage = .awaiting r → r.verdict = some v →
    (l.move now c.id).2 = [.ends c.id (r.reply v)] ∧ (l.move now c.id).1.acks = l.acks ∧
      (v = .superseded →
        r.reply v = .error (.io (r.name ++ " superseded by a newer request")))
  /-- A request that is told something before it was sent again is sent first, and ends with
  the failure of that if it fails. Its end leaves the table as it is. -/
  told_sends : ∀ c ∈ l.calls, ∀ r now, c.stage = .transmitting r → r.verdict ≠ none →
    (l.move now c.id).1.acks = l.acks ∧
      ((∃ e, (l.send r.message).reply = .error e ∧
          (l.move now c.id).2 = [.ends c.id (.error e)]) ∨
        ∃ peer header, (l.move now c.id).2 = [.sends peer header r.message] ∧
          ∃ o ∈ (l.move now c.id).1.calls, o.id = c.id ∧ o.stage = .awaiting (r.sent now))

/-- **Requests are answered by count.** For every interleaving of calls, their ends,
messages and the passage of time. -/
theorem answers_are_counted (hl : l.Reached) : l.AnswersCounted where
  tickets := hl.orderly.tickets
  counted := by
    intro now e later r r' hr hnew hr' hticket
    have hclaim := verdict_run hl.orderly hr hnew hr' hticket
    exact ⟨congrArg Claim.command hclaim, congrArg Claim.verdict hclaim⟩
  told_by_one := by
    intro h a r r' hr hnone hr' hticket htold
    have ho := hl.orderly
    obtain ⟨hverdict, hk⟩ := answered_of_told ho hr hnone hr' hticket htold
    obtain ⟨hterm, e, he, -, -, hown⟩ := AckTable.resolve_told.mp hk
    obtain ⟨e', he', hown', -⟩ := ho.sound.untold_waits (claim_mem hr) hnone
    have hcommand := ho.sound.entry_unique he' he (hown'.trans hown.symm)
    refine ⟨hverdict, hterm, hcommand, ?youngest, ?only⟩
    case youngest =>
      intro s hs hscommand
      have he' : l.desk.acks.find? s.claim.command = some e := by
        rw [← hscommand] at he
        exact he
      exact hown ▸ ho.sound.entry_youngest (claim_mem hs) he'
    case only =>
      intro s hs s' hs' hsnone hsticket hstold
      have hk' := (answered_of_told ho hs hsnone hs' hsticket hstold).2
      exact Option.some.inj (hk'.symm.trans hk)
  told_once := by
    intro later r r' hr htold hr' hticket
    have ho := hl.orderly
    obtain ⟨hs, hsteps, -⟩ := run_steps ho later
    exact congrArg Claim.verdict
      (Desk.told_steps ho.sound hsteps (claim_mem hr) htold (claim_mem hr') hticket)
  ended := by
    intro later k hk hgone
    obtain ⟨hs, hsteps, -⟩ := run_steps hl.orderly later
    have hgone' : ∀ x, l.desk.claims x → x.ticket ≠ k := by
      intro x hx
      obtain ⟨s, hs, rfl⟩ := List.mem_map.mp hx
      exact hgone s hs
    have hnever : ∀ r ∈ (l.run later).1.requests, r.ticket ≠ k := fun r hr =>
      (Desk.gone_steps hsteps hk hgone').2 _ (claim_mem hr)
    refine ⟨hnever, fun e he heq => ?_⟩
    rw [← Bool.not_eq_true]
    intro hwaiting
    obtain ⟨r, hr, hticket, -, -⟩ := waiting_request (hl.orderly.run later) he hwaiting
    exact hnever r hr (hticket.trans heq)
  unmoved := by
    intro h a hcases
    exact handle_unmoved hcases
  others := by
    intro h a c r hc hr hcommand
    change c ∈ (l.listen h (.commandAck a)).1.calls ∧
      (l.listen h (.commandAck a)).1.acks.find? r.order.commandId = _
    unfold listen
    split
    · exact ⟨hc, rfl⟩
    · split
      · exact acknowledge_other hl.orderly hc hr hcommand
      · exact ⟨hc, rfl⟩
  waiters := by
    intro e he hwaiting
    exact waiting_request hl.orderly he hwaiting
  told_ends := by
    intro c hc r v now hstage hverdict
    have ho := hl.orderly
    have hr : c.stage.request? = some r := by rw [hstage]; rfl
    have hacks := dropped_acks ho hc hr (by simp [hverdict])
    have hmove := move_of_awaiting ho hc hstage hverdict now
    refine ⟨by rw [hmove]; rfl, by rw [hmove]; exact hacks, ?_⟩
    rintro rfl
    rfl
  told_sends := by
    intro c hc r now hstage hverdict
    have ho := hl.orderly
    have hsame := l.send_sameDesk r.message
    have hc' : c ∈ (l.send r.message).link.calls := hsame.calls ▸ hc
    rw [move_of_transmitting ho hc hstage]
    unfold after
    rcases l.send_cases r.message with ⟨e, hreply, hacts⟩ | ⟨peer, header, hreply, hacts⟩
    · rw [hreply, hacts]
      have hr : c.stage.request? = some r := by rw [hstage]; rfl
      have hacks := dropped_acks (hsame.orderly ho) hc' hr hverdict
      exact ⟨hacks.trans hsame.acks, .inl ⟨e, rfl, rfl⟩⟩
    · rw [hreply, hacts]
      refine ⟨hsame.acks, .inr ⟨peer, header, rfl, ?_⟩⟩
      exact ⟨_, List.mem_map.mpr ⟨c, hc', if_pos rfl⟩, rfl, rfl⟩

/-- A link with a peer on the same machine. -/
def beforeContact : VehicleLink := .new .default .reliable (some ⟨Network.localAddress, 14550⟩)

/-- A copter with an autopilot shows that it is there. -/
def contact : Event := .message ⟨⟨1, 1⟩, 0⟩
  (.heartbeat ⟨0, ⟨2, by decide⟩, ⟨12, by decide⟩, 0, SystemState.active, 3⟩)

/-- The result of a command that has failed. -/
def failed : CommandResult := ⟨4, by decide⟩

/-- The copter says how a command to arm or disarm it ended. -/
def armAnswer (result : CommandResult) : Event :=
  .message ⟨⟨1, 1⟩, 0⟩ (.commandAck ⟨.armDisarm, result⟩)

/-- A request to arm is sent and given up. -/
def armGivenUp : List (Instant × Event) :=
  [(0, contact), (0, .call 0 .arm), (0, .move 0), (100, .abandon 0)]

/-- The link when a request to disarm has followed. -/
def disarmBegun : VehicleLink := ((beforeContact.run armGivenUp).1.step 200 (.call 1 .disarm)).1

/-- The request to disarm passes over the refusal, which is for the request to arm. -/
theorem answers_are_counted_disarm :
    ∃ r ∈ (disarmBegun.run [(300, armAnswer failed), (400, armAnswer 0)]).1.requests,
      r.ticket = 1 ∧ r.verdict = some (.answered 0) := by
  have hreached : (beforeContact.run armGivenUp).1.Reached := (Reached.new _ _ _).run _
  obtain ⟨first, hfirst, hfresh, hcommand⟩ : ∃ first ∈ disarmBegun.requests,
      first.ticket = 1 ∧ first.order.commandId = .armDisarm := by decide +kernel
  obtain ⟨r, hr, hticket⟩ :
      ∃ r ∈ (disarmBegun.run [(300, armAnswer failed), (400, armAnswer 0)]).1.requests,
        r.ticket = 1 := by decide +kernel
  have hnext : (beforeContact.run armGivenUp).1.acks.nextTicket = 1 := by decide +kernel
  have hnew : (beforeContact.run armGivenUp).1.acks.nextTicket ≤ first.ticket := by omega
  have hcounted := (answers_are_counted hreached).counted 200 (.call 1 .disarm)
    [(300, armAnswer failed), (400, armAnswer 0)] first r hfirst hnew hr
    (hticket.trans hfresh.symm)
  rw [hcommand] at hcounted
  refine ⟨r, hr, hticket, ?_⟩
  rw [hcounted.2]
  decide +kernel

end VehicleLink

end GroundStation
