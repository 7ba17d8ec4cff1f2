import GroundStation.Proofs.Telemetry.Delivery

/-!
# The account of a subscriber

A channel keeps its latest values, and a subscriber is a position among all the values sent.
This module turns the position into the subscriber's backlog, the values sent since it
subscribed that it has neither been handed nor been told it lost. What it finds next is a
function of its backlog and of the number of values kept, and of nothing else (`findIn`).

So a subscriber's account adds up at any moment: reading what it found against the values sent
since it subscribed, value for value and gap for gap, leaves exactly its backlog (`Tells`).

An `Audience` is an aggregator with any number of subscribers, who come and look at any time.

## Main results

* `Channel.Carries.receive`: what a receiver finds in a channel that has carried some values.
* `Audience.reads_of_subscribed`: along every run each subscriber's account adds up.
* `Audience.subscribers_account`: that, and nobody's account depends on anybody else.
-/

namespace GroundStation

/-! ## What a channel keeps -/

namespace Channel

variable {α : Type} {c : Channel α} {xs : List α} {r : Receiver}

/-- A channel that has carried these values, and keeps the last of them. -/
structure Carries (c : Channel α) (xs : List α) : Prop where
  size_pos : 0 < c.size
  sent : c.sent = xs.length
  kept : c.latest.take c.size = xs.reverse.take c.size

theorem carries_new (capacity : Nat) : (new capacity : Channel α).Carries [] where
  size_pos := Nat.pos_of_isPowerOfTwo (Nat.isPowerOfTwo_nextPowerOfTwo _)
  sent := rfl
  kept := rfl

theorem Carries.sendAll (h : c.Carries xs) (ys : List α) : (c.sendAll ys).Carries (xs ++ ys) where
  size_pos := by rw [sendAll_size]; exact h.size_pos
  sent := by rw [sendAll_sent, h.sent, List.length_append]
  kept := by
    have hfewer := congrArg (List.take (c.size - ys.reverse.length)) h.kept
    rw [List.take_take, List.take_take, Nat.min_eq_left (Nat.sub_le ..)] at hfewer
    rw [sendAll_size, kept_sendAll, List.reverse_append, List.take_append, List.take_append, hfewer]

theorem Carries.send (h : c.Carries xs) (x : α) : (c.send x).Carries (xs ++ [x]) := h.sendAll [x]

/-- A value that is kept stands where it was sent. -/
theorem Carries.getElem?_latest (h : c.Carries xs) {i : Nat} (hi : i < xs.length)
    (hkept : xs.length ≤ i + c.size) : c.latest[xs.length - 1 - i]? = xs[i]? := by
  have hnear : xs.length - 1 - i < c.size := by omega
  have hback : xs.length - 1 - (xs.length - 1 - i) = i := by omega
  calc c.latest[xs.length - 1 - i]? = (c.latest.take c.size)[xs.length - 1 - i]? :=
        (List.getElem?_take_of_lt hnear).symm
    _ = xs.reverse[xs.length - 1 - i]? := by rw [h.kept, List.getElem?_take_of_lt hnear]
    _ = xs[i]? := by rw [List.getElem?_reverse (by omega), hback]

/-- What somebody finds who has a backlog of values, of which so many are kept, and the
backlog afterwards. -/
def findIn (size : Nat) (backlog : List α) : Received α × List α :=
  if size < backlog.length then
    (.lagged (backlog.length - size), backlog.drop (backlog.length - size))
  else match backlog with
    | [] => (.empty, [])
    | value :: later => (.value value, later)

/-- What can be found: news of a loss, nothing, or the first value of the backlog. -/
theorem findIn_cases (size : Nat) (backlog : List α) :
    (size < backlog.length ∧ findIn size backlog =
      (.lagged (backlog.length - size), backlog.drop (backlog.length - size))) ∨
    (backlog = [] ∧ findIn size backlog = (.empty, [])) ∨
    ∃ value later, backlog = value :: later ∧ backlog.length ≤ size ∧
      findIn size backlog = (.value value, later) := by
  unfold findIn
  by_cases hlagged : size < backlog.length
  · exact .inl ⟨hlagged, if_pos hlagged⟩
  · rw [if_neg hlagged]
    cases backlog with
    | nil => exact .inr (.inl ⟨rfl, rfl⟩)
    | cons value later => exact .inr (.inr ⟨value, later, rfl, Nat.le_of_not_lt hlagged, rfl⟩)

/-- A loss is reported exactly where the backlog is longer than what is kept. -/
theorem findIn_eq_lagged {size lost : Nat} {backlog : List α} :
    (findIn size backlog).1 = .lagged lost ↔
      size < backlog.length ∧ lost = backlog.length - size := by
  rcases findIn_cases size backlog with ⟨hlagged, heq⟩ | ⟨rfl, heq⟩ | ⟨value, later, -, hle, heq⟩
  · simp [heq, hlagged, eq_comm]
  · simp [heq]
  · rw [heq]
    exact iff_of_false (by simp) fun h => Nat.not_lt.mpr hle h.1

/-- **What a receiver finds** is what its backlog says, and leaves the rest of the backlog. -/
theorem Carries.receive (h : c.Carries xs) (hr : r.next ≤ xs.length) :
    (c.receive r).1 = (findIn c.size (xs.drop r.next)).1 ∧
      xs.drop (c.receive r).2.next = (findIn c.size (xs.drop r.next)).2 ∧
      r.next ≤ (c.receive r).2.next ∧ (c.receive r).2.next ≤ xs.length := by
  have hpos := h.size_pos
  unfold Channel.receive findIn oldest
  rw [h.sent, List.length_drop]
  by_cases hlagged : r.next < xs.length - c.size
  · rw [if_pos hlagged, if_pos (by omega), List.drop_drop]
    have hsame : xs.length - r.next - c.size = xs.length - c.size - r.next := by omega
    have hnext : r.next + (xs.length - r.next - c.size) = xs.length - c.size := by omega
    rw [hnext, hsame]
    exact ⟨rfl, rfl, Nat.le_of_lt hlagged, Nat.sub_le ..⟩
  · rw [if_neg hlagged, if_neg (by omega : ¬ c.size < xs.length - r.next)]
    by_cases hcaught : xs.length ≤ r.next
    · rw [if_pos hcaught, List.drop_eq_nil_of_le hcaught]
      exact ⟨rfl, rfl, Nat.le_refl _, hr⟩
    · have hlt : r.next < xs.length := Nat.lt_of_not_le hcaught
      rw [if_neg hcaught, h.getElem?_latest hlt (by omega), List.getElem?_eq_getElem hlt,
        List.drop_eq_getElem_cons hlt]
      exact ⟨rfl, rfl, Nat.le_succ _, hlt⟩

/-- What is kept for a receiver is the end of its backlog. -/
theorem Carries.available (h : c.Carries xs) (hr : r.next ≤ xs.length) :
    c.available r = (xs.drop r.next).rtake c.size := by
  have hnear : xs.length - max r.next (xs.length - c.size) = min (xs.length - r.next) c.size := by
    omega
  have hlatest : c.latest.take (min (xs.length - r.next) c.size) =
      (xs.drop r.next).reverse.take c.size := by
    rw [← List.take_take, h.kept, List.take_take, List.reverse_drop, List.take_take, Nat.min_comm]
  rw [Channel.available, oldest, h.sent, hnear, hlatest, List.rtake_eq_reverse_take_reverse]

end Channel

/-! ## What a subscriber found -/

section Found

variable {α : Type}

/-- The values among what was found. -/
def valuesIn : List (Received α) → List α
  | [] => []
  | .value value :: found => value :: valuesIn found
  | .lagged _ :: found | .empty :: found => valuesIn found

/-- The number of values that were reported as lost. -/
def lostIn : List (Received α) → Nat
  | [] => 0
  | .lagged lost :: found => lost + lostIn found
  | .value _ :: found | .empty :: found => lostIn found

/-- **Reading what was found against the values sent.** Each value found is the next one sent,
each gap reported passes over as many as it says, and what has not been read by then is the
rest. -/
def Tells : List (Received α) → List α → List α → Prop
  | [], sent, rest => sent = rest
  | .value value :: found, sent, rest => ∃ later, sent = value :: later ∧ Tells found later rest
  | .lagged lost :: found, sent, rest =>
    0 < lost ∧ lost ≤ sent.length ∧ Tells found (sent.drop lost) rest
  | .empty :: found, sent, rest => Tells found sent rest

variable {found : List (Received α)} {sent rest : List α}

/-- Values sent later come to the rest. -/
theorem Tells.sendAll (h : Tells found sent rest) (more : List α) :
    Tells found (sent ++ more) (rest ++ more) := by
  induction found generalizing sent with
  | nil =>
      obtain rfl : sent = rest := h
      rfl
  | cons x found ih =>
      cases x with
      | value value =>
          obtain ⟨later, rfl, htells⟩ := h
          exact ⟨later ++ more, rfl, ih htells⟩
      | lagged lost =>
          obtain ⟨hpos, hle, htells⟩ := h
          refine ⟨hpos, by rw [List.length_append]; omega, ?_⟩
          rw [List.drop_append_of_le_length hle]
          exact ih htells
      | empty => exact ih h

/-- Whoever looks again reads on in the rest. -/
theorem Tells.find (h : Tells found sent rest) (size : Nat) :
    Tells (found ++ [(Channel.findIn size rest).1]) sent (Channel.findIn size rest).2 := by
  induction found generalizing sent with
  | nil =>
      obtain rfl : sent = rest := h
      rcases Channel.findIn_cases size sent with
        ⟨hlagged, heq⟩ | ⟨rfl, heq⟩ | ⟨value, later, rfl, -, heq⟩
      · rw [heq]
        exact ⟨Nat.sub_pos_of_lt hlagged, Nat.sub_le .., rfl⟩
      · rw [heq]
        rfl
      · rw [heq]
        exact ⟨later, rfl, rfl⟩
  | cons x found ih =>
      cases x with
      | value value =>
          obtain ⟨later, rfl, htells⟩ := h
          exact ⟨later, rfl, ih htells⟩
      | lagged lost =>
          obtain ⟨hpos, hle, htells⟩ := h
          exact ⟨hpos, hle, ih htells⟩
      | empty => exact ih h

/-- What was handed over, what was lost and the rest are all that was sent. -/
theorem Tells.count (h : Tells found sent rest) :
    (valuesIn found).length + lostIn found + rest.length = sent.length := by
  induction found generalizing sent with
  | nil =>
      obtain rfl : sent = rest := h
      simp [valuesIn, lostIn]
  | cons x found ih =>
      cases x with
      | value value =>
          obtain ⟨later, rfl, htells⟩ := h
          have hlater := ih htells
          rw [valuesIn, lostIn, List.length_cons, List.length_cons]
          omega
      | lagged lost =>
          obtain ⟨hpos, hle, htells⟩ := h
          have hlater := ih htells
          rw [List.length_drop] at hlater
          rw [valuesIn, lostIn]
          omega
      | empty => exact ih h

/-- What was handed over was sent, in this order and each value once. -/
theorem Tells.sublist (h : Tells found sent rest) : (valuesIn found).Sublist sent := by
  induction found generalizing sent with
  | nil => exact List.nil_sublist sent
  | cons x found ih =>
      cases x with
      | value value =>
          obtain ⟨later, rfl, htells⟩ := h
          exact (ih htells).cons_cons value
      | lagged lost => exact (ih h.2.2).trans (List.drop_sublist lost sent)
      | empty => exact ih h

end Found

/-! ## Subscribers of an aggregator -/

namespace Aggregator

theorem applyAll_append (a : Aggregator) (us later : UpdateHistory) :
    a.applyAll (us ++ later) = (a.applyAll us).applyAll later := List.foldl_append ..

theorem applyAll_samples_size (a : Aggregator) (us : UpdateHistory) :
    (a.applyAll us).samples.size = a.samples.size := by
  induction us using List.reverseRecOn with
  | nil => rfl
  | append_singleton us u ih =>
      rw [applyAll_append, ← ih]
      exact (congrArg Channel.size (apply_samples _ u.1 u.2)).trans (Channel.sendAll_size ..)

/-- An aggregator's channel carries the samples that its updates emit. -/
theorem carries_applyAll (capacity : Nat) (us : UpdateHistory) :
    ((new capacity).applyAll us).samples.Carries (emissions us) := by
  induction us using List.reverseRecOn with
  | nil => exact Channel.carries_new capacity
  | append_singleton us u ih =>
      have hholds := (follows_applyAll capacity us).holds
      rw [applyAll_append, emissions_concat]
      change (((new capacity).applyAll us).apply u.1 u.2).samples.Carries _
      rcases hholds.apply_cases u.1 u.2 with ⟨s, hs, heq⟩ | ⟨hs, status, heq⟩
      · rw [hs, heq]
        exact ih.send s
      · rw [hs, heq, Option.toList_none, List.append_nil]
        exact ih

end Aggregator

/-- A subscriber, and what it has found so far. -/
structure Subscriber where
  receiver : Receiver
  found : List (Received Sample)

namespace Subscriber

/-- A subscriber looks once. -/
def look (s : Subscriber) (c : Channel Sample) : Subscriber :=
  ⟨(c.receive s.receiver).2, s.found ++ [(c.receive s.receiver).1]⟩

/-- **The account of a subscriber** of a channel, for the samples emitted since it subscribed
and the backlog that it has among them. -/
structure Accounts (s : Subscriber) (c : Channel Sample) (since backlog : List Sample) :
    Prop where
  /-- What it found are the samples in their order with the gaps reported, up to its backlog. -/
  tells : Tells s.found since backlog
  /-- No sample was handed over twice, and none before an earlier one. -/
  in_order : (valuesIn s.found).Sublist since
  /-- The samples handed over, the losses reported and the backlog are all the samples. -/
  adds_up : (valuesIn s.found).length + lostIn s.found + backlog.length = since.length
  /-- The end of the backlog is kept, as much as the channel keeps; the rest is lost. -/
  kept : c.available s.receiver = backlog.rtake c.size
  /-- What it finds next hangs on its backlog alone. -/
  finds : (s.look c).found = s.found ++ [(Channel.findIn c.size backlog).1]
  /-- It is told of a loss exactly when its backlog is longer than what is kept. -/
  gap : ∀ lost, (c.receive s.receiver).1 = .lagged lost ↔
    c.size < backlog.length ∧ lost = backlog.length - c.size

/-- A subscriber who subscribed when so many samples had been emitted, and has read on. -/
structure Reads (s : Subscriber) (start : Nat) (emitted : List Sample) : Prop where
  start_le : start ≤ s.receiver.next
  next_le : s.receiver.next ≤ emitted.length
  tells : Tells s.found (emitted.drop start) (emitted.drop s.receiver.next)

variable {s : Subscriber} {c : Channel Sample} {start : Nat} {emitted : List Sample}

theorem Reads.sendAll (h : s.Reads start emitted) (more : List Sample) :
    s.Reads start (emitted ++ more) where
  start_le := h.start_le
  next_le := by
    rw [List.length_append]
    exact Nat.le_add_right_of_le h.next_le
  tells := by
    rw [List.drop_append_of_le_length h.next_le,
      List.drop_append_of_le_length (h.start_le.trans h.next_le)]
    exact h.tells.sendAll more

theorem Reads.look (h : s.Reads start emitted) (hc : c.Carries emitted) :
    (s.look c).Reads start emitted := by
  obtain ⟨hfound, hrest, hnext, hle⟩ := hc.receive h.next_le
  refine ⟨h.start_le.trans hnext, hle, ?_⟩
  change Tells (s.found ++ [(c.receive s.receiver).1]) _
    (emitted.drop (c.receive s.receiver).2.next)
  rw [hfound, hrest]
  exact h.tells.find c.size

theorem Reads.accounts (h : s.Reads start emitted) (hc : c.Carries emitted) :
    s.Accounts c (emitted.drop start) (emitted.drop s.receiver.next) where
  tells := h.tells
  in_order := h.tells.sublist
  adds_up := h.tells.count
  kept := hc.available h.next_le
  finds := congrArg (fun x => s.found ++ [x]) (hc.receive h.next_le).1
  gap lost := by rw [(hc.receive h.next_le).1, Channel.findIn_eq_lagged]

end Subscriber

/-- An aggregator and everybody who ever subscribed to it, in the order of subscription. -/
structure Audience where
  aggregator : Aggregator
  subscribers : List Subscriber

namespace Audience

/-- What happens between an aggregator and its audience: an update, a subscription, and a
look of the subscriber with a number. -/
inductive Event where
  | update (u : Update) (timestamp : Nat)
  | subscribe
  | look (index : Nat)

/-- An aggregator nobody has subscribed to. -/
def new (capacity : Nat) : Audience := ⟨.new capacity, []⟩

/-- One event. -/
def step (a : Audience) : Event → Audience
  | .update u timestamp => { a with aggregator := a.aggregator.apply u timestamp }
  | .subscribe => { a with subscribers := a.subscribers ++ [⟨a.aggregator.subscribe, []⟩] }
  | .look index =>
    { a with subscribers := a.subscribers.modify index (·.look a.aggregator.samples) }

/-- An audience after a run of events. -/
def after (a : Audience) (es : List Event) : Audience := es.foldl step a

/-- The update of an event, with its time. -/
def Event.update? : Event → Option (Update × Nat)
  | .update u timestamp => some (u, timestamp)
  | .subscribe | .look _ => none

/-- The updates of a run. -/
def updates (es : List Event) : UpdateHistory := es.filterMap Event.update?

/-- The number of subscriptions in a run, which is the number of the next subscriber. -/
def subscriptions (es : List Event) : Nat :=
  es.countP fun
    | .subscribe => true
    | .update _ _ | .look _ => false

/-- The samples emitted in a run. -/
def emitted (es : List Event) : List Sample := emissions (updates es)

/-- What an event would be if the subscriber with a number were the only one, and had
subscribed already. -/
def Event.own? (index : Nat) : Event → Option Event
  | .update u timestamp => some (.update u timestamp)
  | .subscribe => none
  | .look i => if i = index then some (.look 0) else none

/-- A run as it would be if whoever subscribed between its two parts had been the only
subscriber. -/
def alone (before later : List Event) : List Event :=
  (before.filter fun e => e.update?.isSome) ++
    .subscribe :: later.filterMap (Event.own? (subscriptions before))

variable {a : Audience} {es before later : List Event} {capacity : Nat}

theorem after_concat (a : Audience) (es : List Event) (e : Event) :
    a.after (es ++ [e]) = (a.after es).step e := List.foldl_append ..

theorem updates_append (es later : List Event) :
    updates (es ++ later) = updates es ++ updates later := List.filterMap_append ..

theorem updates_cons (e : Event) (es : List Event) :
    updates (e :: es) = e.update?.toList ++ updates es := by
  cases h : e.update? <;> simp [updates, h]

theorem subscriptions_append (es later : List Event) :
    subscriptions (es ++ later) = subscriptions es + subscriptions later := List.countP_append ..

/-- **Subscribers change nothing for the aggregator.** -/
theorem after_aggregator (a : Audience) (es : List Event) :
    (a.after es).aggregator = a.aggregator.applyAll (updates es) := by
  induction es using List.reverseRecOn with
  | nil => rfl
  | append_singleton es e ih =>
      rw [after_concat, updates_append, Aggregator.applyAll_append, ← ih]
      cases e <;> rfl

/-- Everybody who subscribed is there, in the order of subscription. -/
theorem length_subscribers (capacity : Nat) (es : List Event) :
    ((new capacity).after es).subscribers.length = subscriptions es := by
  induction es using List.reverseRecOn with
  | nil => rfl
  | append_singleton es e ih =>
      rw [after_concat, subscriptions_append]
      cases e <;> simp [step, subscriptions, ih]

/-- The channel of an audience carries the samples emitted. -/
theorem carries (capacity : Nat) (es : List Event) :
    ((new capacity).after es).aggregator.samples.Carries (emitted es) := by
  rw [after_aggregator]
  exact Aggregator.carries_applyAll capacity (updates es)

/-- Only updates emit samples. -/
theorem emitted_concat_of_none {e : Event} (es : List Event) (h : e.update? = none) :
    emitted (es ++ [e]) = emitted es := by
  rw [emitted, updates_append, updates_cons, h]
  exact congrArg emissions (List.append_nil _)

/-- An update adds to the samples emitted. -/
theorem emitted_concat_update (es : List Event) (u : Update) (timestamp : Nat) :
    emitted (es ++ [.update u timestamp]) =
      emitted es ++ (emitted? (updates es ++ [(u, timestamp)])).toList := by
  rw [emitted, updates_append]
  exact emissions_concat (updates es) (u, timestamp)

/-! ## One subscriber among many -/

/-- Without those who subscribe and look the updates are still there. -/
theorem updates_filter (es : List Event) :
    updates (es.filter fun e => e.update?.isSome) = updates es := by
  induction es with
  | nil => rfl
  | cons e es ih =>
      rw [updates_cons, ← ih]
      cases e <;> rfl

/-- Whatever others do, the updates stay what they are. -/
theorem updates_alone (before later : List Event) :
    updates (alone before later) = updates (before ++ .subscribe :: later) := by
  have hlater : ∀ index, updates (later.filterMap (Event.own? index)) = updates later := by
    intro index
    induction later with
    | nil => rfl
    | cons e es ih =>
        rw [updates_cons, ← ih]
        cases e with
        | update u timestamp => rfl
        | subscribe => rfl
        | look i =>
            by_cases hi : i = index
            · have hown : Event.own? index (.look i) = some (.look 0) := if_pos hi
              rw [List.filterMap_cons_some hown]
              rfl
            · have hown : Event.own? index (.look i) = none := if_neg hi
              rw [List.filterMap_cons_none hown]
              rfl
  rw [alone, updates_append, updates_append, updates_cons, updates_cons, updates_filter,
    hlater]

theorem alone_concat (before later : List Event) (e : Event) :
    alone before (later ++ [e]) =
      alone before later ++ (e.own? (subscriptions before)).toList := by
  cases h : e.own? (subscriptions before) <;> simp [alone, h]

/-- Nobody has subscribed where there are updates only. -/
theorem subscribers_of_updates (capacity : Nat) (es : List Event) :
    ((new capacity).after (es.filter fun e => e.update?.isSome)).subscribers = [] := by
  rw [← List.length_eq_zero_iff, length_subscribers, subscriptions, List.countP_eq_zero]
  intro e he
  cases e <;> simp [Event.update?] at he ⊢

/-- **Along every run a subscriber reads on**, and it would find the same if it were alone. -/
theorem reads_of_subscribed (capacity : Nat) (before later : List Event) :
    ∃ s, ((new capacity).after (before ++ .subscribe :: later)).subscribers[subscriptions before]? =
        some s ∧
      s.Reads (emitted before).length (emitted (before ++ .subscribe :: later)) ∧
      ((new capacity).after (alone before later)).subscribers = [s] := by
  induction later using List.reverseRecOn with
  | nil =>
      have hsent := (carries capacity before).sent
      have halone : ((new capacity).after (before.filter fun e => e.update?.isSome)).aggregator =
          ((new capacity).after before).aggregator := by
        rw [after_aggregator, after_aggregator, updates_filter]
      refine ⟨⟨((new capacity).after before).aggregator.subscribe, []⟩, ?_, ?_, ?_⟩
      · rw [after_concat, step, ← length_subscribers capacity before]
        exact List.getElem?_concat_length
      · rw [emitted_concat_of_none before rfl]
        exact ⟨Nat.le_of_eq hsent.symm, Nat.le_of_eq hsent,
          congrArg (fun n => (emitted before).drop n) hsent.symm⟩
      · rw [alone, List.filterMap_nil, after_concat, step, subscribers_of_updates, halone]
        rfl
  | append_singleton later e ih =>
      obtain ⟨s, hs, hreads, halone⟩ := ih
      have hsplit : before ++ .subscribe :: (later ++ [e]) =
          (before ++ .subscribe :: later) ++ [e] := by simp
      rw [hsplit, after_concat, alone_concat]
      cases e with
      | update u timestamp =>
          rw [emitted_concat_update, Event.own?, Option.toList_some, after_concat]
          exact ⟨s, hs, hreads.sendAll _, halone⟩
      | subscribe =>
          have hlt := (List.getElem?_eq_some_iff.mp hs).1
          rw [emitted_concat_of_none _ rfl, Event.own?, Option.toList_none, List.append_nil]
          exact ⟨s, (List.getElem?_append_left hlt).trans hs, hreads, halone⟩
      | look index =>
          rw [emitted_concat_of_none _ rfl, Event.own?]
          by_cases hindex : index = subscriptions before
          · have haggregator : ((new capacity).after (alone before later)).aggregator =
                ((new capacity).after (before ++ .subscribe :: later)).aggregator := by
              rw [after_aggregator, after_aggregator, updates_alone]
            rw [if_pos hindex, Option.toList_some, after_concat, step, step, halone, haggregator,
              hindex]
            refine ⟨s.look _, ?_, hreads.look (carries capacity _), rfl⟩
            exact (List.getElem?_modify_eq ..).trans (congrArg (Option.map _) hs)
          · rw [if_neg hindex, Option.toList_none, List.append_nil]
            exact ⟨s, (List.getElem?_modify_ne _ _ hindex).trans hs, hreads, halone⟩

/-- **The accounts of all subscribers add up, and they are independent.** For every run of
updates, subscriptions and looks, and for every subscriber in it:

* Its account adds up for the samples emitted since it subscribed, and so it does at every
  earlier moment, because the run is any run.
* It found what it would have found if nobody else had subscribed.
* Whoever subscribes and looks, the aggregator is as its updates alone make it: the latest
  sample, the number of samples, their spacings and the samples kept. -/
theorem subscribers_account (capacity : Nat) (before later : List Event) :
    ∃ s backlog,
      ((new capacity).after (before ++ .subscribe :: later)).subscribers[subscriptions before]? =
        some s ∧
      s.Accounts ((new capacity).after (before ++ .subscribe :: later)).aggregator.samples
        ((emitted (before ++ .subscribe :: later)).drop (emitted before).length) backlog ∧
      ((new capacity).after (before ++ .subscribe :: later)).aggregator.samples.size =
        Channel.slots capacity ∧
      ((new capacity).after (alone before later)).subscribers = [s] ∧
      ((new capacity).after (before ++ .subscribe :: later)).aggregator =
        (Aggregator.new capacity).applyAll (updates (before ++ .subscribe :: later)) := by
  obtain ⟨s, hs, hreads, halone⟩ := reads_of_subscribed capacity before later
  refine ⟨s, _, hs, hreads.accounts (carries capacity _), ?_, halone, after_aggregator _ _⟩
  rw [after_aggregator, Aggregator.applyAll_samples_size]
  rfl

end Audience

end GroundStation
