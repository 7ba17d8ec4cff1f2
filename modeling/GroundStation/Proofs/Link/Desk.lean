import GroundStation.Proofs.Link.Table

/-!
# Requests and their answers

A link's desk is its table of acknowledgements together with the requests that are open.
Three things happen to it, in any order: a request starts, an acknowledgement comes in,
and an open request ends, for whatever reason (`Desk.Step`).

The table and the requests keep in step (`Desk.Sound`): an entry that waits belongs to an
open request that has been told nothing, an open request that has been told nothing has
an entry that waits for it, and no entry has the ticket of a request that has been told
something. Everything else follows from this. In particular a request is told something
once, and what it is told can be counted off the acknowledgements of its command that
come in after its start (`verdictAfter`).

## Main results

* `Desk.Sound.step`: every happening keeps table and requests in step.
* `Desk.told_steps`: what a request has been told stays.
* `Desk.gone_steps`: a request that has ended is never open again.
* `Desk.verdict_steps`: the verdict of a request is counted off the happenings since its
  start.
-/

namespace GroundStation

open Mavlink

/-! ## Counting -/

/-- What the requests of one command notice: the start of a newer one, and an
acknowledgement that says how the command ended. -/
inductive AckNote where
  | restarted
  | answered (result : CommandResult)
deriving DecidableEq, Repr

/-- The answers before the next start. -/
def answers : List AckNote → List CommandResult
  | [] => []
  | .restarted :: _ => []
  | .answered result :: rest => result :: answers rest

/-- **What a request is told**, from the notes since its start: it passes over as many
answers as there were marks, takes the next one if it comes before a newer request
starts, and is superseded by that one otherwise. -/
def verdictAfter (marks : Nat) (notes : List AckNote) : Option Verdict :=
  match (answers notes)[marks]? with
  | some result => some (.answered result)
  | none => if .restarted ∈ notes then some .superseded else none

/-- The number of answers that a request with or without a mark passes over. -/
def marksOf (marked : Bool) : Nat := if marked then 1 else 0

@[simp] theorem verdictAfter_nil (marks : Nat) : verdictAfter marks [] = none := rfl

@[simp] theorem verdictAfter_restarted (marks : Nat) (notes : List AckNote) :
    verdictAfter marks (.restarted :: notes) = some .superseded := by
  simp [verdictAfter, answers]

@[simp] theorem verdictAfter_zero_answered (result : CommandResult) (notes : List AckNote) :
    verdictAfter 0 (.answered result :: notes) = some (.answered result) := rfl

@[simp] theorem verdictAfter_succ_answered (marks : Nat) (result : CommandResult)
    (notes : List AckNote) :
    verdictAfter (marks + 1) (.answered result :: notes) = verdictAfter marks notes := by
  simp [verdictAfter, answers]

/-! ## The desk -/

/-- An open request, as far as the table is concerned. -/
structure Claim where
  ticket : Nat
  command : CommandId
  verdict : Option Verdict
deriving DecidableEq, Repr

namespace Claim

/-- A claim after the one with a ticket, if any, was told something. -/
def told (who : Option Nat) (v : Verdict) (x : Claim) : Claim :=
  if who = some x.ticket then { x with verdict := some v } else x

variable {who : Option Nat} {v : Verdict} {x : Claim}

@[simp] theorem told_ticket : (x.told who v).ticket = x.ticket := by
  unfold told
  split <;> rfl

@[simp] theorem told_command : (x.told who v).command = x.command := by
  unfold told
  split <;> rfl

theorem told_of_ne (h : who ≠ some x.ticket) : x.told who v = x := if_neg h

theorem told_verdict : (x.told who v).verdict = none ↔
    who ≠ some x.ticket ∧ x.verdict = none := by
  unfold told
  by_cases h : who = some x.ticket <;> simp [h]

end Claim

/-- The table of acknowledgements and the open requests. -/
structure Desk where
  acks : AckTable
  claims : Claim → Prop

/-- What happens to a desk. -/
inductive Happening where
  | starts (command : CommandId)
  | hears (ack : CommandAck)
  | ends (claim : Claim)

/-- What the requests of a command notice of a happening. -/
def Happening.note? (c : CommandId) : Happening → Option AckNote
  | .starts command => if command = c then some .restarted else none
  | .hears ack => if ack.command = c ∧ ack.isTerminal then some (.answered ack.result) else none
  | .ends _ => none

/-- The notes of a command among happenings. -/
def notesOf (c : CommandId) (hs : List Happening) : List AckNote := hs.filterMap (·.note? c)

theorem notesOf_cons (c : CommandId) (h : Happening) (hs : List Happening) :
    notesOf c (h :: hs) = (h.note? c).toList ++ notesOf c hs := by
  cases hnote : h.note? c <;> simp [notesOf, hnote]

theorem notesOf_append (c : CommandId) (hs later : List Happening) :
    notesOf c (hs ++ later) = notesOf c hs ++ notesOf c later := List.filterMap_append ..

namespace Desk

/-- The start of a request. -/
def start (d : Desk) (c : CommandId) : Desk where
  acks := (d.acks.start c).table
  claims y := y = ⟨d.acks.nextTicket, c, none⟩ ∨
    ∃ x, d.claims x ∧ y = x.told (d.acks.start c).superseded .superseded

/-- An acknowledgement. -/
def hear (d : Desk) (a : CommandAck) : Desk where
  acks := (d.acks.resolve a).1
  claims y := ∃ x, d.claims x ∧ y = x.told (d.acks.resolve a).2 (.answered a.result)

/-- The end of a request. -/
def drop (d : Desk) (x : Claim) : Desk where
  acks := d.acks.finish x.command x.ticket
  claims y := d.claims y ∧ y.ticket ≠ x.ticket

/-- One happening. Only an open request can end. -/
inductive Step : Desk → Happening → Desk → Prop
  | starts (d : Desk) (c : CommandId) : Step d (.starts c) (d.start c)
  | hears (d : Desk) (a : CommandAck) : Step d (.hears a) (d.hear a)
  | ends {d : Desk} {x : Claim} (h : d.claims x) : Step d (.ends x) (d.drop x)

/-- Happenings one after the other. -/
inductive Steps : Desk → List Happening → Desk → Prop
  | nil (d : Desk) : Steps d [] d
  | cons {d d' d'' : Desk} {h : Happening} {hs : List Happening} (hstep : Step d h d')
    (hrest : Steps d' hs d'') : Steps d (h :: hs) d''

/-- Tickets are counted upwards. -/
theorem Step.nextTicket_le {d d' : Desk} {h : Happening} (hstep : Step d h d') :
    d.acks.nextTicket ≤ d'.acks.nextTicket := by
  cases hstep with
  | starts c => exact Nat.le_succ _
  | hears a => exact Nat.le_of_eq (AckTable.resolve_nextTicket d.acks a).symm
  | ends hx => exact Nat.le_refl _

theorem Steps.one {d d' : Desk} {h : Happening} (hstep : Step d h d') : Steps d [h] d' :=
  .cons hstep (.nil d')

theorem Steps.append {d d' d'' : Desk} {hs later : List Happening} (h : Steps d hs d')
    (h' : Steps d' later d'') : Steps d (hs ++ later) d'' := by
  induction h with
  | nil d => exact h'
  | cons hstep hrest ih => exact .cons hstep (ih h')

/-! ## Table and requests in step -/

/-- **The table and the open requests are in step.** -/
structure Sound (d : Desk) : Prop where
  keyed : d.acks.Keyed
  entry_fresh : ∀ {c e}, d.acks.find? c = some e → e.ticket < d.acks.nextTicket
  entry_unique : ∀ {c c' e e'}, d.acks.find? c = some e → d.acks.find? c' = some e' →
    e.ticket = e'.ticket → c = c'
  claim_fresh : ∀ {x}, d.claims x → x.ticket < d.acks.nextTicket
  claim_unique : ∀ {x y}, d.claims x → d.claims y → x.ticket = y.ticket → x = y
  waiter_open : ∀ {c e}, d.acks.find? c = some e → e.waiting = true →
    d.claims ⟨e.ticket, c, none⟩
  untold_waits : ∀ {x}, d.claims x → x.verdict = none →
    ∃ e, d.acks.find? x.command = some e ∧ e.ticket = x.ticket ∧ e.waiting = true
  told_left : ∀ {x c e}, d.claims x → x.verdict ≠ none → d.acks.find? c = some e →
    e.ticket ≠ x.ticket
  entry_youngest : ∀ {x e}, d.claims x → d.acks.find? x.command = some e → x.ticket ≤ e.ticket

variable {d d' : Desk} {h : Happening} {hs : List Happening} {x y : Claim} {c : CommandId}
  {k : Nat}

/-- An empty desk. -/
theorem sound_empty {claims : Claim → Prop} (h : ∀ x, ¬ claims x) : Sound ⟨.empty, claims⟩ where
  keyed := List.nodup_nil
  entry_fresh := nofun
  entry_unique := nofun
  claim_fresh hx := (h _ hx).elim
  claim_unique hx := (h _ hx).elim
  waiter_open := nofun
  untold_waits hx := (h _ hx).elim
  told_left := nofun
  entry_youngest := nofun

namespace Sound

/-- The request that a start supersedes has been told nothing and has the entry. -/
theorem superseded_owns (hd : d.Sound) {e : PendingAck} {c' : CommandId}
    (hk : (d.acks.start c).superseded = some k) (he : d.acks.find? c' = some e)
    (hticket : e.ticket = k) : c' = c := by
  obtain ⟨e', he', -, hticket'⟩ := AckTable.start_superseded d.acks c |>.mp hk
  exact hd.entry_unique he he' (hticket.trans hticket'.symm)

/-- An entry with the ticket of an open request is that request's own, and waits. -/
theorem owner (hd : d.Sound) {e : PendingAck} (hx : d.claims x) (he : d.acks.find? c = some e)
    (hticket : e.ticket = x.ticket) : x.command = c ∧ x.verdict = none := by
  by_cases hnone : x.verdict = none
  · obtain ⟨e', he', hticket', -⟩ := hd.untold_waits hx hnone
    exact ⟨hd.entry_unique he' he (hticket'.trans hticket.symm), hnone⟩
  · exact absurd hticket (hd.told_left hx hnone he)

theorem start (hd : d.Sound) (c : CommandId) : (d.start c).Sound where
  keyed := hd.keyed.start c
  entry_fresh := by
    intro c' e he
    change (d.acks.start c).table.find? c' = some e at he
    change e.ticket < d.acks.nextTicket + 1
    rw [AckTable.find?_start] at he
    split at he
    · obtain rfl := Option.some.inj he
      exact Nat.lt_succ_self _
    · exact Nat.lt_succ_of_lt (hd.entry_fresh he)
  entry_unique := by
    intro c' c'' e e' he he' hticket
    change (d.acks.start c).table.find? c' = some e at he
    change (d.acks.start c).table.find? c'' = some e' at he'
    rw [AckTable.find?_start] at he he'
    split at he <;> split at he'
    · simp_all
    · obtain rfl := Option.some.inj he
      exact absurd hticket.symm (Nat.ne_of_lt (hd.entry_fresh he'))
    · obtain rfl := Option.some.inj he'
      exact absurd hticket (Nat.ne_of_lt (hd.entry_fresh he))
    · exact hd.entry_unique he he' hticket
  claim_fresh := by
    rintro y (rfl | ⟨x, hx, rfl⟩)
    · exact Nat.lt_succ_self _
    · rw [Claim.told_ticket]
      exact Nat.lt_succ_of_lt (hd.claim_fresh hx)
  claim_unique := by
    rintro y y' (rfl | ⟨x, hx, rfl⟩) (rfl | ⟨x', hx', rfl⟩) hticket
    · rfl
    · rw [Claim.told_ticket] at hticket
      exact absurd hticket.symm (Nat.ne_of_lt (hd.claim_fresh hx'))
    · rw [Claim.told_ticket] at hticket
      exact absurd hticket (Nat.ne_of_lt (hd.claim_fresh hx))
    · rw [Claim.told_ticket, Claim.told_ticket] at hticket
      rw [hd.claim_unique hx hx' hticket]
  waiter_open := by
    intro c' e he hwaiting
    change (d.acks.start c).table.find? c' = some e at he
    rw [AckTable.find?_start] at he
    split at he
    · rename_i heq
      obtain rfl := Option.some.inj he
      exact .inl (by rw [heq])
    · rename_i hne
      refine .inr ⟨_, hd.waiter_open he hwaiting, (Claim.told_of_ne ?_).symm⟩
      exact fun hk => hne (hd.superseded_owns hk he rfl)
  untold_waits := by
    rintro y (rfl | ⟨x, hx, rfl⟩) hverdict
    · exact ⟨_, (AckTable.find?_start d.acks c c).trans (if_pos rfl), rfl, rfl⟩
    · obtain ⟨hwho, hnone⟩ := Claim.told_verdict.mp hverdict
      obtain ⟨e, he, hticket, hwaiting⟩ := hd.untold_waits hx hnone
      rw [Claim.told_command, Claim.told_ticket]
      have hne : x.command ≠ c := by
        intro heq
        rw [heq] at he
        exact hwho ((AckTable.start_superseded d.acks c).mpr ⟨e, he, hwaiting, hticket⟩)
      exact ⟨e, (AckTable.find?_start d.acks c x.command).trans ((if_neg hne).trans he), hticket,
        hwaiting⟩
  told_left := by
    rintro y c' e (rfl | ⟨x, hx, rfl⟩) hverdict he
    · exact absurd rfl hverdict
    · change (d.acks.start c).table.find? c' = some e at he
      rw [AckTable.find?_start] at he
      rw [Claim.told_ticket]
      split at he
      · obtain rfl := Option.some.inj he
        exact (Nat.ne_of_lt (hd.claim_fresh hx)).symm
      · rename_i hne
        by_cases hnone : x.verdict = none
        · intro hticket
          refine hverdict (Claim.told_verdict.mpr ⟨fun hk => ?_, hnone⟩)
          exact hne (hd.superseded_owns hk he hticket)
        · exact hd.told_left hx hnone he
  entry_youngest := by
    rintro y e (rfl | ⟨x, hx, rfl⟩) he
    · change (d.acks.start c).table.find? c = some e at he
      rw [AckTable.find?_start, if_pos rfl] at he
      exact Nat.le_of_eq (congrArg PendingAck.ticket (Option.some.inj he))
    · change (d.acks.start c).table.find? _ = some e at he
      rw [Claim.told_command, AckTable.find?_start] at he
      rw [Claim.told_ticket]
      split at he
      · obtain rfl := Option.some.inj he
        exact Nat.le_of_lt (hd.claim_fresh hx)
      · exact hd.entry_youngest hx he

/-- An acknowledgement completes the request that has the entry of its command. -/
theorem answered_owns (hd : d.Sound) {a : CommandAck} {e : PendingAck} {c' : CommandId}
    (hk : (d.acks.resolve a).2 = some k) (he : d.acks.find? c' = some e)
    (hticket : e.ticket = k) : c' = a.command := by
  obtain ⟨-, e', he', -, -, hticket'⟩ := AckTable.resolve_told.mp hk
  exact hd.entry_unique he he' (hticket.trans hticket'.symm)

theorem hear (hd : d.Sound) (a : CommandAck) : (d.hear a).Sound where
  keyed := hd.keyed.resolve a
  entry_fresh := by
    intro c e' he'
    obtain ⟨e, he, hticket, -⟩ := AckTable.find?_resolve he'
    change e'.ticket < (d.acks.resolve a).1.nextTicket
    rw [AckTable.resolve_nextTicket, ← hticket]
    exact hd.entry_fresh he
  entry_unique := by
    intro c c' e e' he he' hticket
    obtain ⟨e₀, he₀, hticket₀, -⟩ := AckTable.find?_resolve he
    obtain ⟨e₁, he₁, hticket₁, -⟩ := AckTable.find?_resolve he'
    exact hd.entry_unique he₀ he₁ (hticket₀.trans (hticket.trans hticket₁.symm))
  claim_fresh := by
    rintro y ⟨x, hx, rfl⟩
    change (x.told _ _).ticket < (d.acks.resolve a).1.nextTicket
    rw [Claim.told_ticket, AckTable.resolve_nextTicket]
    exact hd.claim_fresh hx
  claim_unique := by
    rintro y y' ⟨x, hx, rfl⟩ ⟨x', hx', rfl⟩ hticket
    rw [Claim.told_ticket, Claim.told_ticket] at hticket
    rw [hd.claim_unique hx hx' hticket]
  waiter_open := by
    intro c e' he' hwaiting
    obtain ⟨e, he, hticket, hwaiting', hnone⟩ := AckTable.find?_resolve he'
    rw [← hticket]
    refine ⟨_, hd.waiter_open he (hwaiting'.trans hwaiting), (Claim.told_of_ne ?_).symm⟩
    intro hk
    rw [hnone (hd.answered_owns hk he rfl)] at hk
    cases hk
  untold_waits := by
    rintro y ⟨x, hx, rfl⟩ hverdict
    obtain ⟨hwho, hnone⟩ := Claim.told_verdict.mp hverdict
    obtain ⟨e, he, hticket, hwaiting⟩ := hd.untold_waits hx hnone
    rw [Claim.told_command, Claim.told_ticket]
    change ∃ e, (d.acks.resolve a).1.find? x.command = some e ∧ _
    by_cases hc : x.command = a.command
    · cases hterm : a.isTerminal with
      | false => exact ⟨e, by rw [AckTable.resolve_inProgress hterm, he], hticket, hwaiting⟩
      | true =>
          rw [hc] at he ⊢
          cases hstale : e.stale with
          | false =>
              have htold := AckTable.resolve_told.mpr ⟨hterm, e, he, hwaiting, hstale, hticket⟩
              exact absurd htold hwho
          | true =>
              have hmodify := AckTable.find?_modify d.acks a.command a.command
                (fun e => { e with stale := false }) fun _ => rfl
              rw [if_pos rfl, he] at hmodify
              refine ⟨{ e with stale := false }, ?_, hticket, hwaiting⟩
              rw [AckTable.resolve_terminal hterm, he]
              simpa [hwaiting, hstale] using hmodify
    · exact ⟨e, (AckTable.find?_resolve_of_ne hc).trans he, hticket, hwaiting⟩
  told_left := by
    rintro y c e' ⟨x, hx, rfl⟩ hverdict he'
    obtain ⟨e, he, hticket, -, hnone⟩ := AckTable.find?_resolve he'
    rw [Claim.told_ticket, ← hticket]
    by_cases hx' : x.verdict = none
    · intro heq
      refine hverdict (Claim.told_verdict.mpr ⟨fun hk => ?_, hx'⟩)
      rw [hnone (hd.answered_owns hk he heq)] at hk
      cases hk
    · exact hd.told_left hx hx' he
  entry_youngest := by
    rintro y e' ⟨x, hx, rfl⟩ he'
    rw [Claim.told_command] at he'
    obtain ⟨e, he, hticket, -⟩ := AckTable.find?_resolve he'
    rw [Claim.told_ticket, ← hticket]
    exact hd.entry_youngest hx he

theorem drop (hd : d.Sound) (hx : d.claims x) : (d.drop x).Sound where
  keyed := hd.keyed.finish x.command x.ticket
  entry_fresh := by
    intro c e' he'
    obtain ⟨e, he, hticket, -⟩ := AckTable.find?_finish_some he'
    exact hticket ▸ hd.entry_fresh he
  entry_unique := by
    intro c c' e e' he he' hticket
    obtain ⟨e₀, he₀, hticket₀, -⟩ := AckTable.find?_finish_some he
    obtain ⟨e₁, he₁, hticket₁, -⟩ := AckTable.find?_finish_some he'
    exact hd.entry_unique he₀ he₁ (hticket₀.trans (hticket.trans hticket₁.symm))
  claim_fresh hy := hd.claim_fresh hy.1
  claim_unique hy hy' := hd.claim_unique hy.1 hy'.1
  waiter_open := by
    intro c e' he' hwaiting
    obtain ⟨e, he, hticket, hwaiting', hown⟩ := AckTable.find?_finish_some he'
    have hopen := hd.waiter_open he (hwaiting' hwaiting)
    rw [← hticket]
    refine ⟨hopen, fun heq => ?_⟩
    have hc : c = x.command := congrArg Claim.command (hd.claim_unique hopen hx heq)
    rw [hown hc heq] at hwaiting
    cases hwaiting
  untold_waits := by
    rintro y ⟨hy, hne⟩ hnone
    obtain ⟨e, he, hticket, hwaiting⟩ := hd.untold_waits hy hnone
    refine ⟨e, ?_, hticket, hwaiting⟩
    change (d.acks.finish x.command x.ticket).find? y.command = some e
    rw [AckTable.find?_finish]
    split
    · rename_i hc
      rw [← hc, he, Option.map_some, if_neg (hticket ▸ hne)]
    · exact he
  told_left := by
    rintro y c e' ⟨hy, -⟩ hverdict he'
    obtain ⟨e, he, hticket, -⟩ := AckTable.find?_finish_some he'
    exact hticket ▸ hd.told_left hy hverdict he
  entry_youngest := by
    rintro y e' ⟨hy, -⟩ he'
    obtain ⟨e, he, hticket, -⟩ := AckTable.find?_finish_some he'
    exact hticket ▸ hd.entry_youngest hy he

/-- **Every happening keeps table and requests in step.** -/
theorem step (hd : d.Sound) (hstep : Step d h d') : d'.Sound := by
  cases hstep with
  | starts c => exact hd.start c
  | hears a => exact hd.hear a
  | ends hx => exact hd.drop hx

/-- So does a whole run of a desk. -/
theorem steps (hd : d.Sound) (hsteps : Steps d hs d') : d'.Sound := by
  induction hsteps with
  | nil d => exact hd
  | cons hstep hrest ih => exact ih (hd.step hstep)

end Sound

/-! ## Told and gone -/

/-- What has been told something is told nothing else. -/
theorem told_step (hd : d.Sound) (hstep : Step d h d') (hx : d.claims x)
    (hverdict : x.verdict ≠ none) (hy : d'.claims y) (hticket : y.ticket = x.ticket) : y = x := by
  cases hstep with
  | starts c =>
      rcases hy with rfl | ⟨z, hz, rfl⟩
      · exact absurd hticket.symm (Nat.ne_of_lt (hd.claim_fresh hx))
      · rw [Claim.told_ticket] at hticket
        obtain rfl := hd.claim_unique hz hx hticket
        refine Claim.told_of_ne fun hk => ?_
        obtain ⟨e, he, -, hown⟩ := (AckTable.start_superseded _ _).mp hk
        exact hd.told_left hx hverdict he hown
  | hears a =>
      obtain ⟨z, hz, rfl⟩ := hy
      rw [Claim.told_ticket] at hticket
      obtain rfl := hd.claim_unique hz hx hticket
      refine Claim.told_of_ne fun hk => ?_
      obtain ⟨-, e, he, -, -, hown⟩ := AckTable.resolve_told.mp hk
      exact hd.told_left hx hverdict he hown
  | ends hz => exact hd.claim_unique hy.1 hx hticket

/-- A request that has ended is not open again. -/
theorem gone_step (hstep : Step d h d') (hk : k < d.acks.nextTicket)
    (hgone : ∀ x, d.claims x → x.ticket ≠ k) :
    k < d'.acks.nextTicket ∧ ∀ y, d'.claims y → y.ticket ≠ k := by
  cases hstep with
  | starts c =>
      refine ⟨Nat.lt_succ_of_lt hk, ?_⟩
      rintro y (rfl | ⟨x, hx, rfl⟩)
      · exact (Nat.ne_of_lt hk).symm
      · rw [Claim.told_ticket]
        exact hgone x hx
  | hears a =>
      refine ⟨?_, ?_⟩
      · exact (AckTable.resolve_nextTicket d.acks a).symm ▸ hk
      · rintro y ⟨x, hx, rfl⟩
        rw [Claim.told_ticket]
        exact hgone x hx
  | ends hx => exact ⟨hk, fun y hy => hgone y hy.1⟩

/-- **A request that has ended is never open again.** -/
theorem gone_steps (hsteps : Steps d hs d') (hk : k < d.acks.nextTicket)
    (hgone : ∀ x, d.claims x → x.ticket ≠ k) :
    k < d'.acks.nextTicket ∧ ∀ y, d'.claims y → y.ticket ≠ k := by
  induction hsteps with
  | nil d => exact ⟨hk, hgone⟩
  | cons hstep hrest ih =>
      obtain ⟨hk', hgone'⟩ := gone_step hstep hk hgone
      exact ih hk' hgone'

/-- **What a request has been told stays.** -/
theorem told_steps (hd : d.Sound) (hsteps : Steps d hs d') (hx : d.claims x)
    (hverdict : x.verdict ≠ none) (hy : d'.claims y) (hticket : y.ticket = x.ticket) : y = x := by
  induction hsteps with
  | nil d => exact hd.claim_unique hy hx hticket
  | @cons d d₁ d₂ h hs hstep hrest ih =>
      by_cases hopen : ∃ z, d₁.claims z ∧ z.ticket = x.ticket
      · obtain ⟨z, hz, hzticket⟩ := hopen
        obtain rfl := told_step hd hstep hx hverdict hz hzticket
        exact ih (hd.step hstep) hz hy
      · have hnext := Nat.lt_of_lt_of_le (hd.claim_fresh hx) hstep.nextTicket_le
        exact absurd hticket ((gone_steps hrest hnext fun z hz h => hopen ⟨z, hz, h⟩).2 y hy)

/-- Acknowledgements alone bring no new requests. -/
theorem old_of_hears {acks : List CommandAck} (hsteps : Steps d (acks.map .hears) d')
    (hy : d'.claims y) : ∃ x, d.claims x ∧ x.ticket = y.ticket := by
  induction acks generalizing d with
  | nil =>
      cases hsteps
      exact ⟨y, hy, rfl⟩
  | cons a rest ih =>
      cases hsteps with
      | cons hstep hrest =>
          obtain ⟨z, hz, hticket⟩ := ih hrest
          cases hstep with
          | hears a =>
              obtain ⟨x, hx, rfl⟩ := hz
              exact ⟨x, hx, Claim.told_ticket.symm.trans hticket⟩

/-! ## The verdict -/

/-- A request that has been told nothing yet, and the entry that waits for it. -/
structure Waits (d : Desk) (k : Nat) (c : CommandId) (marked : Bool) : Prop where
  claim : d.claims ⟨k, c, none⟩
  entry : d.acks.find? c = some ⟨c, k, true, marked⟩

/-- What a request that waited has seen of a happening, which its command takes note of with
`note`. It has been told something, for which the notes that follow make no difference; or
it goes on waiting, and its mark counts the note. -/
def Sees (d : Desk) (k : Nat) (c : CommandId) (marked : Bool) (note : Option AckNote) : Prop :=
  (∃ v, d.claims ⟨k, c, some v⟩ ∧
    ∀ notes, verdictAfter (marksOf marked) (note.toList ++ notes) = some v) ∨
  ∃ marked', d.Waits k c marked' ∧ ∀ notes,
    verdictAfter (marksOf marked) (note.toList ++ notes) = verdictAfter (marksOf marked') notes

variable {marked : Bool}

theorem Waits.start (hd : d.Sound) (hw : d.Waits k c marked) (c' : CommandId) :
    (d.start c').Sees k c marked ((Happening.starts c').note? c) := by
  by_cases hc : c' = c
  · subst hc
    refine .inl ⟨.superseded, .inr ⟨_, hw.claim, ?_⟩, fun notes => ?_⟩
    · have hk := (AckTable.start_superseded d.acks c').mpr ⟨_, hw.entry, rfl, rfl⟩
      rw [hk]
      exact (if_pos rfl).symm
    · simp [Happening.note?]
  · refine .inr ⟨marked, ⟨.inr ⟨_, hw.claim, ?_⟩, ?_⟩, fun notes => ?_⟩
    · refine (Claim.told_of_ne fun hk => hc ?_).symm
      exact (hd.superseded_owns hk hw.entry rfl).symm
    · exact (AckTable.find?_start d.acks c' c).trans ((if_neg (Ne.symm hc)).trans hw.entry)
    · simp [Happening.note?, hc]

/-- An answer to the command, which the mark of the request lets pass or not. -/
theorem Waits.hear_answer {a : CommandAck} (hw : d.Waits k a.command marked)
    (hterm : a.isTerminal = true) :
    (d.hear a).Sees k a.command marked (some (.answered a.result)) := by
  cases marked with
  | false =>
      refine .inl ⟨.answered a.result, ⟨_, hw.claim, ?_⟩, fun notes => by simp [marksOf]⟩
      have hk := AckTable.resolve_told.mpr ⟨hterm, _, hw.entry, rfl, rfl, rfl⟩
      rw [hk]
      exact (if_pos rfl).symm
  | true =>
      have hresolve := AckTable.resolve_terminal (t := d.acks) hterm
      rw [hw.entry] at hresolve
      refine .inr ⟨false, ⟨⟨_, hw.claim, ?_⟩, ?_⟩, fun notes => by simp [marksOf]⟩
      · refine (Claim.told_of_ne ?_).symm
        simp [hresolve]
      · have hmodify := AckTable.find?_modify d.acks a.command a.command
          (fun e => { e with stale := false }) fun _ => rfl
        rw [if_pos rfl, hw.entry] at hmodify
        change (d.acks.resolve a).1.find? a.command = _
        rw [hresolve]
        exact hmodify

/-- An acknowledgement that is of another command, or does not say how the command ended. -/
theorem Waits.hear_other {a : CommandAck} (hd : d.Sound) (hw : d.Waits k c marked)
    (hother : ¬ (a.command = c ∧ a.isTerminal = true)) : (d.hear a).Waits k c marked := by
  constructor
  · refine ⟨_, hw.claim, (Claim.told_of_ne fun hk => hother ?_).symm⟩
    exact ⟨(hd.answered_owns hk hw.entry rfl).symm, (AckTable.resolve_told.mp hk).1⟩
  · change (d.acks.resolve a).1.find? c = _
    by_cases hc : c = a.command
    · have hterm : a.isTerminal = false := by
        rw [← Bool.not_eq_true]
        exact fun hterm => hother ⟨hc.symm, hterm⟩
      rw [AckTable.resolve_inProgress hterm]
      exact hw.entry
    · rw [AckTable.find?_resolve_of_ne hc]
      exact hw.entry

theorem Waits.hear (hd : d.Sound) (hw : d.Waits k c marked) (a : CommandAck) :
    (d.hear a).Sees k c marked ((Happening.hears a).note? c) := by
  by_cases hc : a.command = c ∧ a.isTerminal = true
  · obtain ⟨rfl, hterm⟩ := hc
    have hnote : (Happening.hears a).note? a.command = some (.answered a.result) := by
      simp [Happening.note?, hterm]
    rw [hnote]
    exact hw.hear_answer hterm
  · have hnote : (Happening.hears a).note? c = none := by
      simp [Happening.note?, hc]
    rw [hnote]
    exact .inr ⟨marked, hw.hear_other hd hc, fun notes => rfl⟩

/-- The end of another request. -/
theorem Waits.drop (hw : d.Waits k c marked) (hk : x.ticket ≠ k) : (d.drop x).Waits k c marked := by
  constructor
  · exact ⟨hw.claim, Ne.symm hk⟩
  · change (d.acks.finish x.command x.ticket).find? c = _
    rw [AckTable.find?_finish]
    split
    · rename_i hc
      rw [← hc, hw.entry, Option.map_some, if_neg (Ne.symm hk)]
    · exact hw.entry

/-- **One happening, as a request that waits sees it**, unless it is its end. -/
theorem Waits.step (hd : d.Sound) (hw : d.Waits k c marked) (hstep : Step d h d') :
    d'.Sees k c marked (h.note? c) ∨ h = .ends ⟨k, c, none⟩ := by
  cases hstep with
  | starts c' => exact .inl (hw.start hd c')
  | hears a => exact .inl (hw.hear hd a)
  | @ends x hx =>
      by_cases hk : x.ticket = k
      · exact .inr (congrArg _ (hd.claim_unique hx hw.claim hk))
      · exact .inl (.inr ⟨marked, hw.drop hk, fun notes => rfl⟩)

/-- **The verdict of a request is counted off the happenings since its start.** -/
theorem verdict_steps (hd : d.Sound) (hw : d.Waits k c marked)
    (hsteps : Steps d hs d') (hy : d'.claims y) (hticket : y.ticket = k) :
    y = ⟨k, c, verdictAfter (marksOf marked) (notesOf c hs)⟩ := by
  induction hsteps generalizing marked with
  | nil d => exact hd.claim_unique hy hw.claim hticket
  | @cons d d₁ d₂ h hs hstep hrest ih =>
      rw [notesOf_cons]
      rcases hw.step hd hstep with (⟨v, hclaim, hcount⟩ | ⟨marked', hw', hcount⟩) | rfl
      · rw [hcount]
        exact told_steps (hd.step hstep) hrest hclaim nofun hy hticket
      · rw [hcount]
        exact ih (hd.step hstep) hw' hy
      · -- its end takes it away for good
        have hfresh := Nat.lt_of_lt_of_le (hd.claim_fresh hw.claim) hstep.nextTicket_le
        have hgone : ∀ z, d₁.claims z → z.ticket ≠ k := by
          cases hstep with
          | ends hx => exact fun z hz => hz.2
        exact absurd hticket ((gone_steps hrest hfresh hgone).2 y hy)

end Desk

end GroundStation
