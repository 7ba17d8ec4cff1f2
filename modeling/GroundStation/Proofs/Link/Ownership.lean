import GroundStation.Proofs.Link.Answers

/-!
# Whom an answer is for

A vehicle that answers every request at most once, in the order in which they were made,
sends each acknowledgement for one request. The acknowledgement does not say which, and the
table keeps no more than one mark for a command. So a request can be completed by an answer
to an earlier one, and this module says exactly when: if more answers to earlier requests
come in while it waits than the mark it began with lets pass.

The requests of a command are numbered in the order of their starts. Whom the answers of a
history are for is a list of such numbers (`Owned`): they increase, because the vehicle
answers in order and at most once, and each is the number of a request that was started
before.

## Main results

* `Owned.own_iff`: which answers to earlier requests it takes for an answer to be for the
  request that counts it.
* `VehicleLink.answered_by_own_iff`: when a request is completed by its own answer.
-/

namespace GroundStation

open Mavlink

/-! ## Numbered answers -/

/-- **Whom the answers of a history are for**, when `started` requests have been started
before it and the next answer is for number `least` at the earliest. Answers may be lost. -/
inductive Owned : Nat → Nat → List AckNote → List Nat → Prop
  | nil (started least : Nat) : Owned started least [] []
  | restarted {started least : Nat} {notes : List AckNote} {owners : List Nat}
    (h : Owned (started + 1) least notes owners) :
    Owned started least (.restarted :: notes) owners
  | answered {started least owner : Nat} {result : CommandResult} {notes : List AckNote}
    {owners : List Nat} (hleast : least ≤ owner) (hstarted : owner < started)
    (h : Owned started (owner + 1) notes owners) :
    Owned started least (.answered result :: notes) (owner :: owners)

/-- Is a note an answer? -/
def AckNote.isAnswer : AckNote → Bool
  | .answered _ => true
  | .restarted => false

/-- The answers to requests before number `k`, among those that come in before the next
start. -/
def earlierAnswers (k : Nat) (notes : List AckNote) (owners : List Nat) : Nat :=
  ((owners.take (answers notes).length).filter (· < k)).length

variable {started least k m : Nat} {notes later : List AckNote} {owners : List Nat}

/-- What is left to come after the answers of a history. -/
theorem Owned.drop (h : Owned started least (notes ++ later) owners) :
    ∃ least', Owned (started + notes.count .restarted) least' later
      (owners.drop (notes.countP (·.isAnswer))) := by
  induction notes generalizing started least owners with
  | nil => exact ⟨least, h⟩
  | cons note rest ih =>
      cases h with
      | restarted h =>
          obtain ⟨least', howned⟩ := ih h
          refine ⟨least', ?_⟩
          rw [Nat.add_right_comm] at howned
          simpa [AckNote.isAnswer, Nat.add_assoc] using howned
      | answered hleast hstarted h =>
          obtain ⟨least', howned⟩ := ih h
          exact ⟨least', by simpa [AckNote.isAnswer] using howned⟩

/-- When the youngest request has been answered, nothing is answered until the next start. -/
theorem Owned.answers_eq_nil (h : Owned started least notes owners) (hle : started ≤ least) :
    answers notes = [] := by
  cases h with
  | nil => rfl
  | restarted h => rfl
  | answered hleast hstarted h => omega

/-- No answer before the next start is for a later request. -/
theorem Owned.le_of_answers (h : Owned started least notes owners) (hk : started = k + 1)
    (hm : m < (answers notes).length) : ∃ owner, owners[m]? = some owner ∧ owner ≤ k := by
  induction h generalizing m with
  | nil => exact absurd hm (Nat.not_lt_zero m)
  | restarted h => exact absurd hm (Nat.not_lt_zero m)
  | @answered started least owner result notes owners hleast hstarted h ih =>
      cases m with
      | zero => exact ⟨owner, rfl, by omega⟩
      | succ m => exact ih hk (by simpa [answers] using hm)

/-- **The answer number `m` since the start of the youngest request is its own, unless more
than `m` answers are for earlier ones.** -/
theorem Owned.own_iff (h : Owned started least notes owners) (hk : started = k + 1)
    (hm : m < (answers notes).length) :
    owners[m]? = some k ↔ earlierAnswers k notes owners ≤ m := by
  induction h generalizing m with
  | nil => exact absurd hm (Nat.not_lt_zero m)
  | restarted h => exact absurd hm (Nat.not_lt_zero m)
  | @answered started least owner result notes owners hleast hstarted h ih =>
      have hle : owner ≤ k := by omega
      rcases Nat.lt_or_eq_of_le hle with hlt | rfl
      · -- one more answer for an earlier request
        have hcount : earlierAnswers k (.answered result :: notes) (owner :: owners) =
            earlierAnswers k notes owners + 1 := by
          simp [earlierAnswers, answers, hlt]
        rw [hcount]
        cases m with
        | zero => simp [Nat.ne_of_lt hlt]
        | succ m =>
            have hrest := ih hk (by simpa [answers] using hm)
            rw [List.getElem?_cons_succ, hrest]
            exact Nat.succ_le_succ_iff.symm
      · -- its own answer is the last one before the next start
        have hlast : answers notes = [] := h.answers_eq_nil (by omega)
        have hcount : earlierAnswers owner (.answered result :: notes) (owner :: owners) = 0 := by
          simp [earlierAnswers, answers, hlast]
        obtain rfl : m = 0 := by
          simpa [answers, hlast] using hm
        simp [hcount]

/-! ## Verdicts and answers -/

theorem verdictAfter_answered {result : CommandResult} :
    verdictAfter m notes = some (.answered result) ↔ (answers notes)[m]? = some result := by
  unfold verdictAfter
  split
  · rename_i heq
    simp [heq]
  · rename_i heq
    split <;> simp [heq]

/-- What follows on a start is no answer to the requests before it. -/
theorem answers_append_of_restarted (h : .restarted ∈ notes) :
    answers (notes ++ later) = answers notes := by
  induction notes with
  | nil => cases h
  | cons note rest ih =>
      cases note with
      | restarted => rfl
      | answered result =>
          have hrest : .restarted ∈ rest := by simpa using h
          rw [List.cons_append, answers, ih hrest, answers]

/-- A request that is answered in the end has been told nothing as long as it passes answers
over. -/
theorem verdictAfter_none_iff (h : m < (answers (notes ++ later)).length) :
    verdictAfter m notes = none ↔ (answers notes).length ≤ m := by
  unfold verdictAfter
  split
  · rename_i result heq
    have hlt := (List.getElem?_eq_some_iff.mp heq).1
    simp [Nat.not_le_of_lt hlt]
  · rename_i heq
    have hle := List.getElem?_eq_none_iff.mp heq
    have hnot : .restarted ∉ notes := by
      intro hmem
      rw [answers_append_of_restarted hmem] at h
      exact absurd h (Nat.not_lt_of_le hle)
    simp [hnot, hle]

namespace VehicleLink

variable {l : VehicleLink} {r : CommandRequest} {command : CommandId}

/-! ## Histories in two parts -/

theorem history_append (l : VehicleLink) (command : CommandId)
    (es later : List (Instant × Event)) :
    l.history command (es ++ later) =
      l.history command es ++ (l.run es).1.history command later := by
  induction es generalizing l with
  | nil => rfl
  | cons first rest ih =>
      obtain ⟨now, e⟩ := first
      rw [List.cons_append, history, history, ih, List.append_assoc]
      rfl

/-- An event that starts a request brings its command nothing else. -/
theorem notes_of_start (ho : l.Orderly) {now : Instant} {e : Event}
    (hr : r ∈ (l.step now e).1.requests) (hnew : l.acks.nextTicket ≤ r.ticket) :
    l.notes r.order.commandId now e = [.restarted] := by
  have hstarts : l.starts r.order.commandId now e = true := by
    rw [starts, List.any_eq_true]
    exact ⟨r, hr, by simpa using hnew⟩
  have hheard : l.heard e = [] := by
    cases step_conduct ho now e with
    | starts started h hnone => exact hnone
    | ends hx h hnone => exact hnone
    | hears h =>
        obtain ⟨x, hx, hticket⟩ := Desk.old_of_hears h.steps (claim_mem hr)
        have hold := ho.sound.claim_fresh hx
        rw [hticket] at hold
        exact absurd hold (Nat.not_lt_of_le hnew)
  rw [notes, hstarts, hheard]
  rfl

/-! ## Whose answer it is -/

/-- The number that the next request of a command gets. -/
def nextNumber (l : VehicleLink) (command : CommandId) (es : List (Instant × Event)) : Nat :=
  (l.history command es).count .restarted

/-- How many answers to requests of a command have come in. -/
def answersSoFar (l : VehicleLink) (command : CommandId) (es : List (Instant × Event)) : Nat :=
  (l.history command es).countP (·.isAnswer)

/-- **When a request is completed by its own answer.** A request is started in a run, and is
answered by the end of it; the vehicle answers in order and at most once.

* As long as the answers that came in since its start are no more than the marks it began
  with, it has been told nothing; so it is completed by the next one.
* That answer is for this request or for an earlier one.
* It is for this request if and only if no more answers to earlier requests came in while it
  was the youngest than it had marks: one if there was an entry at its start, and none
  otherwise. -/
theorem answered_by_own_iff {start l next : VehicleLink} {config : LinkConfig}
    {network : Network} {peer : Option Endpoint} {before later : List (Instant × Event)}
    {now : Instant} {e : Event} {r r' : CommandRequest} {result : CommandResult} {marks : Nat}
    {owners : List Nat} (hstart : start = new config network peer)
    (hl : l = (start.run before).1) (hnext : next = (l.step now e).1)
    (hr : r ∈ next.requests) (hnew : l.acks.nextTicket ≤ r.ticket)
    (hmarks : marks = marksOf (l.acks.find? r.order.commandId).isSome)
    (hr' : r' ∈ (next.run later).1.requests) (hticket : r'.ticket = r.ticket)
    (hverdict : r'.verdict = some (.answered result))
    (howned : Owned 0 0 (start.history r.order.commandId (before ++ (now, e) :: later)) owners) :
    (∀ first rest, later = first ++ rest →
      ∀ s ∈ (next.run first).1.requests, s.ticket = r.ticket →
        (s.verdict = none ↔
          (answers (next.history r.order.commandId first)).length ≤ marks)) ∧
    (∃ owner, owners[start.answersSoFar r.order.commandId before + marks]? = some owner ∧
      owner ≤ start.nextNumber r.order.commandId before) ∧
    (owners[start.answersSoFar r.order.commandId before + marks]? =
        some (start.nextNumber r.order.commandId before) ↔
      earlierAnswers (start.nextNumber r.order.commandId before)
        (next.history r.order.commandId later)
        (owners.drop (start.answersSoFar r.order.commandId before)) ≤ marks) := by
  subst hstart hl hnext hmarks
  have ho : ((new config network peer).run before).1.Orderly :=
    (orderly_new config network peer).run before
  have hcount := congrArg Claim.verdict (verdict_run ho hr hnew hr' hticket)
  have hlast := verdictAfter_answered.mp (hcount.symm.trans hverdict)
  have hlength := (List.getElem?_eq_some_iff.mp hlast).1
  rw [history_append, history, notes_of_start ho hr hnew] at howned
  obtain ⟨least, hsince⟩ := howned.drop
  cases hsince with
  | restarted hsince =>
      rw [Nat.zero_add] at hsince
      rw [← List.getElem?_drop]
      refine ⟨?passed, ?someone, ?own⟩
      case passed =>
        rintro first rest rfl s hs hsticket
        have hs' : s.verdict = _ :=
          congrArg Claim.verdict (verdict_run ho hr hnew hs hsticket)
        rw [history_append] at hlength
        rw [hs']
        exact verdictAfter_none_iff hlength
      case someone => exact hsince.le_of_answers rfl hlength
      case own => exact hsince.own_iff rfl hlength

/-- The request to disarm has one mark and passes one answer over, so the answer that it
takes is its own. -/
theorem answered_by_own_disarm :
    ∃ r ∈ (disarmBegun.run [(300, armAnswer failed), (400, armAnswer 0)]).1.requests,
      r.verdict = some (.answered 0) ∧
      [0, 1][beforeContact.answersSoFar .armDisarm armGivenUp + 1]? =
        some (beforeContact.nextNumber .armDisarm armGivenUp) := by
  obtain ⟨first, hfirst, hfresh, hcommand⟩ : ∃ first ∈ disarmBegun.requests,
      (beforeContact.run armGivenUp).1.acks.nextTicket = first.ticket ∧
        first.order.commandId = .armDisarm := by decide +kernel
  obtain ⟨r, hr, hticket, hverdict⟩ :
      ∃ r ∈ (disarmBegun.run [(300, armAnswer failed), (400, armAnswer 0)]).1.requests,
        (beforeContact.run armGivenUp).1.acks.nextTicket = r.ticket ∧
          r.verdict = some (.answered 0) := by decide +kernel
  have hhistory : beforeContact.history .armDisarm
      (armGivenUp ++ (200, .call 1 .disarm) :: [(300, armAnswer failed), (400, armAnswer 0)]) =
        [.restarted, .restarted, .answered failed, .answered 0] := by decide +kernel
  have howned : Owned 0 0 (beforeContact.history first.order.commandId
      (armGivenUp ++ (200, .call 1 .disarm) :: [(300, armAnswer failed), (400, armAnswer 0)]))
        [0, 1] := by
    rw [hcommand, hhistory]
    exact .restarted (.restarted (.answered (by decide) (by decide)
      (.answered (by decide) (by decide) (.nil _ _))))
  have hmarks : 1 = marksOf ((beforeContact.run armGivenUp).1.acks.find?
      first.order.commandId).isSome := by
    rw [hcommand]
    decide +kernel
  obtain ⟨-, -, hown⟩ := answered_by_own_iff rfl rfl rfl hfirst (Nat.le_of_eq hfresh) hmarks hr
    (hticket.symm.trans hfresh) hverdict howned
  rw [hcommand] at hown
  exact ⟨r, hr, hverdict, hown.mpr (by decide +kernel)⟩

/-- Two requests to arm are given up, and the answer to the first one comes in. -/
def armTwiceGivenUp : List (Instant × Event) :=
  [(0, contact), (0, .call 0 .arm), (0, .move 0), (100, .abandon 0),
    (200, .call 1 .arm), (200, .move 1), (300, .abandon 1), (400, armAnswer failed)]

/-- The request to disarm that follows takes the answer to the second request to arm for its
own, although the vehicle answers in order and at most once. -/
theorem answered_by_other :
    ¬ ∀ before later now e r r' result owners,
      r ∈ ((beforeContact.run before).1.step now e).1.requests →
      (beforeContact.run before).1.acks.nextTicket ≤ r.ticket →
      r' ∈ (((beforeContact.run before).1.step now e).1.run later).1.requests →
      r'.ticket = r.ticket → r'.verdict = some (.answered result) →
      Owned 0 0 (beforeContact.history r.order.commandId (before ++ (now, e) :: later)) owners →
      owners[beforeContact.answersSoFar r.order.commandId before +
          marksOf ((beforeContact.run before).1.acks.find? r.order.commandId).isSome]? =
        some (beforeContact.nextNumber r.order.commandId before) := by
  intro hclaim
  obtain ⟨first, hfirst, hfresh, hcommand⟩ :
      ∃ first ∈ ((beforeContact.run armTwiceGivenUp).1.step 500 (.call 2 .disarm)).1.requests,
        (beforeContact.run armTwiceGivenUp).1.acks.nextTicket = first.ticket ∧
          first.order.commandId = .armDisarm := by decide +kernel
  obtain ⟨r, hr, hticket, hverdict⟩ :
      ∃ r ∈ (((beforeContact.run armTwiceGivenUp).1.step 500 (.call 2 .disarm)).1.run
          [(500, .move 2), (600, armAnswer 0)]).1.requests,
        (beforeContact.run armTwiceGivenUp).1.acks.nextTicket = r.ticket ∧
          r.verdict = some (.answered 0) := by decide +kernel
  have hhistory : beforeContact.history .armDisarm
      (armTwiceGivenUp ++ (500, .call 2 .disarm) :: [(500, .move 2), (600, armAnswer 0)]) =
        [.restarted, .restarted, .answered failed, .restarted, .answered 0] := by decide +kernel
  have howned : Owned 0 0 (beforeContact.history first.order.commandId
      (armTwiceGivenUp ++ (500, .call 2 .disarm) :: [(500, .move 2), (600, armAnswer 0)]))
        [0, 1] := by
    rw [hcommand, hhistory]
    exact .restarted (.restarted (.answered (by decide) (by decide)
      (.restarted (.answered (by decide) (by decide) (.nil _ _)))))
  have hown := hclaim _ _ _ _ first r _ _ hfirst (Nat.le_of_eq hfresh) hr
    (hticket.symm.trans hfresh) hverdict howned
  rw [hcommand] at hown
  revert hown
  decide +kernel

end VehicleLink

end GroundStation
