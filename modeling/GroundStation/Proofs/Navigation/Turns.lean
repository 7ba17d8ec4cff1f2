import GroundStation.Proofs.Navigation.Acts
import Mathlib.Data.List.Basic
import Mathlib.Data.List.Induction

/-!
# Operations take turns

Any number of operations can be requested at any times, and all of them make their calls on
one link. This module shows that they do not get in each other's way: the acts of a run are
turns, one behind the other, and a turn belongs to one operation from its beginning to its
end (`Session.TakesTurns`). Turns come in the order of the requests; whoever is given up
while it waits is passed over.

The link's side of this is the list of calls that are unanswered (`Session.pending`). A call
leaves it when it is answered and when it is given up, and for no other reason. The list is
empty whenever an operation begins or makes a call.

## Main results

* `Session.step_turn`: what one step is to the turns.
* `Session.InTurns.step`: one step keeps a run in turns.
* `Session.pending_eq`: what is pending is the unanswered call of the running operation.
* `Session.operations_take_turns`: all of it, for every run.
-/

namespace GroundStation

/-! ## Turns -/

namespace NavigatorAct

/-- The operation that an act begins. -/
def beginning? : NavigatorAct → Option Nat
  | .begins id => some id
  | _ => none

/-- The link call of an act. -/
def call? : NavigatorAct → Option LinkCall
  | .calls _ call => some call
  | _ => none

/-- An act in the course of an operation: one of its own, or a state that is shown. -/
structure IsOf (id : Nat) (a : NavigatorAct) : Prop where
  onward : a.beginning? = none
  own : ∀ owner, a.operation? = some owner → owner = id

theorem IsOf.call? {id : Nat} {a : NavigatorAct} (h : a.IsOf id) : a.call? = a.callOf? id := by
  cases a with
  | calls owner linkCall =>
      obtain rfl : owner = id := h.own owner rfl
      simp [NavigatorAct.call?, callOf?]
  | _ => rfl

theorem IsOf.callOf?_of_ne {id other : Nat} {a : NavigatorAct} (h : a.IsOf id)
    (hne : other ≠ id) : a.callOf? other = none := by
  cases a with
  | calls owner linkCall =>
      obtain rfl : owner = id := h.own owner rfl
      simp [callOf?, Ne.symm hne]
  | _ => rfl

end NavigatorAct

/-- The calls that are made on the link, whoever makes them. -/
def linkCalls (acts : List NavigatorAct) : List LinkCall := acts.filterMap (·.call?)

/-- One operation's turn: what is done after its beginning and before the next one's. -/
structure Turn where
  id : Nat
  course : List NavigatorAct

namespace Turn

/-- The acts of a turn. -/
def acts (t : Turn) : List NavigatorAct := .begins t.id :: t.course

/-- A turn with more acts. -/
def further (t : Turn) (more : List NavigatorAct) : Turn := { t with course := t.course ++ more }

/-- Nobody else does anything in a turn. -/
def IsOwn (t : Turn) : Prop := ∀ a ∈ t.course, a.IsOf t.id

/-- A turn is over when its operation has ended, which is the last thing it does, or has been
given up. -/
def IsOver (gone : List Nat) (t : Turn) : Prop :=
  (∃ ending, t.course.getLast? = some (.ends t.id ending)) ∨ t.id ∈ gone

variable {t : Turn} {gone : List Nat}

theorem IsOver.mono (h : t.IsOver gone) (more : List Nat) : t.IsOver (gone ++ more) :=
  h.imp_right (List.mem_append_left more)

/-- An operation whose turn is over has ended, unless it was given up. -/
theorem IsOver.endingsOf_ne_nil {turns : List Turn} {acts : List NavigatorAct} (h : t.IsOver gone)
    (hacts : acts = turns.flatMap Turn.acts) (ht : t ∈ turns) (hgone : t.id ∉ gone) :
    endingsOf t.id acts ≠ [] := by
  obtain ⟨ending, hlast⟩ := h.resolve_right hgone
  have hmem : NavigatorAct.ends t.id ending ∈ acts := by
    rw [hacts, List.mem_flatMap]
    exact ⟨t, ht, List.mem_cons_of_mem _ (List.mem_of_getLast? hlast)⟩
  exact List.ne_nil_of_mem (mem_endingsOf.mpr hmem)

theorem acts_further (t : Turn) (more : List NavigatorAct) :
    (t.further more).acts = t.acts ++ more := rfl

theorem IsOwn.further (h : t.IsOwn) {more : List NavigatorAct} (hmore : ∀ a ∈ more, a.IsOf t.id) :
    (t.further more).IsOwn := by
  intro a ha
  rcases List.mem_append.mp ha with ha | ha
  · exact h a ha
  · exact hmore a ha

theorem isOwn_begun (id : Nat) : (Turn.mk id []).IsOwn := fun _ ha => (List.not_mem_nil ha).elim

/-- The next operation's turn begins. -/
theorem flatMap_acts_begun (turns : List Turn) (id : Nat) :
    (turns ++ [Turn.mk id []]).flatMap acts = turns.flatMap acts ++ [.begins id] := by
  simp [acts]

/-- The last turn goes on. -/
theorem flatMap_acts_further (earlier : List Turn) (last : Turn) (more : List NavigatorAct) :
    (earlier ++ [last.further more]).flatMap acts = (earlier ++ [last]).flatMap acts ++ more := by
  simp [acts_further]

theorem callsOf_acts (h : t.IsOwn) : callsOf t.id t.acts = linkCalls t.acts := by
  unfold callsOf linkCalls acts
  refine (List.filterMap_congr fun a ha => ?_).symm
  rcases List.mem_cons.mp ha with rfl | ha
  · rfl
  · exact (h a ha).call?

theorem callsOf_acts_of_ne (h : t.IsOwn) {id : Nat} (hne : id ≠ t.id) : callsOf id t.acts = [] := by
  unfold callsOf
  rw [List.filterMap_eq_nil_iff]
  intro a ha
  rcases List.mem_cons.mp ha with rfl | ha
  · rfl
  · exact (h a ha).callOf?_of_ne hne

/-- What is seen of one turn among all turns, if nothing is seen of the others. -/
theorem filterMap_flatMap_acts {β : Type} {see : NavigatorAct → Option β} {turns : List Turn}
    (hids : (turns.map (·.id)).Nodup) (ht : t ∈ turns)
    (hother : ∀ o ∈ turns, o.id ≠ t.id → o.acts.filterMap see = []) :
    (turns.flatMap acts).filterMap see = t.acts.filterMap see := by
  obtain ⟨before, after, rfl⟩ := List.append_of_mem ht
  rw [List.map_append, List.map_cons] at hids
  have hnot := (List.nodup_cons.mp (List.perm_middle.nodup_iff.mp hids)).1
  rw [← List.map_append] at hnot
  have hne : ∀ o ∈ before ++ after, o.id ≠ t.id := fun o ho heq =>
    hnot (heq ▸ List.mem_map_of_mem ho)
  have hbefore : (before.flatMap acts).filterMap see = [] := by
    rw [List.filterMap_flatMap, List.flatMap_eq_nil_iff]
    exact fun o ho => hother o (by simp [ho]) (hne o (by simp [ho]))
  have hafter : (after.flatMap acts).filterMap see = [] := by
    rw [List.filterMap_flatMap, List.flatMap_eq_nil_iff]
    exact fun o ho => hother o (by simp [ho]) (hne o (by simp [ho]))
  rw [List.flatMap_append, List.flatMap_cons, List.filterMap_append, List.filterMap_append,
    hbefore, hafter, List.append_nil, List.nil_append]

/-- The calls of one operation among those of all turns. -/
theorem callsOf_flatMap {turns : List Turn} (hown : ∀ t ∈ turns, t.IsOwn)
    (hids : (turns.map (·.id)).Nodup) (ht : t ∈ turns) :
    callsOf t.id (turns.flatMap acts) = linkCalls t.acts :=
  (filterMap_flatMap_acts hids ht fun o ho hne =>
    callsOf_acts_of_ne (hown o ho) (Ne.symm hne)).trans (callsOf_acts (hown t ht))

/-- **The calls on the link are those of the operations, turn by turn.** -/
theorem linkCalls_flatMap {turns : List Turn} (hown : ∀ t ∈ turns, t.IsOwn)
    (hids : (turns.map (·.id)).Nodup) :
    linkCalls (turns.flatMap acts) =
      (turns.map (·.id)).flatMap fun id => callsOf id (turns.flatMap acts) := by
  rw [List.flatMap_map, linkCalls, List.filterMap_flatMap]
  exact List.flatMap_congr fun t ht => (callsOf_flatMap hown hids ht).symm

end Turn

/-! ## What a step is to the turns -/

namespace Navigator

/-- What a move does it does for the operation, and it begins nothing. -/
theorem isOf_of_mem_carryOut {n : Navigator} {op : ActiveOperation} {m : Move}
    {a : NavigatorAct} (ha : a ∈ (n.carryOut op m).2) : a.IsOf op.id where
  onward := by
    rcases m with ⟨shows, _ | _ | _ | _⟩ <;> cases shows <;>
      grind [carryOut, dropped, NavigatorAct.beginning?]
  own := fun _ howner => operation_of_mem_carryOut ha howner

/-- An operation that a move takes away has ended with it. -/
theorem getLast?_carryOut {n : Navigator} {op : ActiveOperation} {m : Move}
    (h : m.act.stage? = none) :
    ∃ ending, (n.carryOut op m).2.getLast? = some (.ends op.id ending) := by
  rcases m with ⟨shows, _ | _ | _ | _⟩ <;> simp [Act.stage?] at h <;> simp [carryOut]

end Navigator

namespace ActiveOperation

variable {settings : NavigatorSettings} {now : Instant} {telemetry : Aggregator}
  {op : ActiveOperation} {e : Session.Event}

theorem isOf_of_mem_react {a : NavigatorAct} (ha : a ∈ (op.react settings now telemetry e).2) :
    a.IsOf op.id where
  onward := by
    cases e with
    | move =>
        cases hm : op.stage.move settings now telemetry op.cancelled with
        | none => simp [react, hm] at ha
        | some m =>
            rw [react_move hm] at ha
            exact (Navigator.isOf_of_mem_carryOut ha).onward
    | abandon id => grind [react, Navigator.dropped, NavigatorAct.beginning?]
    | _ => simp [react] at ha
  own := fun _ howner => operation_of_mem_react ha howner

/-- An operation leaves the navigator because it ends, or because it is given up. -/
theorem ends_of_react (h : (op.react settings now telemetry e).1 = none) :
    (∃ ending, (op.react settings now telemetry e).2.getLast? = some (.ends op.id ending)) ∨
      e = .abandon op.id := by
  cases e with
  | move =>
      cases hm : op.stage.move settings now telemetry op.cancelled with
      | none => simp [react, hm] at h
      | some m =>
          rw [react_move hm] at h ⊢
          exact .inl (Navigator.getLast?_carryOut (Option.map_eq_none_iff.mp h))
  | abandon id =>
      by_cases hid : id = op.id
      · exact .inr (by rw [hid])
      · simp [react, hid] at h
  | _ => simp [react] at h

end ActiveOperation

namespace Session

/-- The number of an operation that an event gives up. -/
def Event.abandoned? : Event → Option Nat
  | .abandon id => some id
  | _ => none

/-- The operations that are given up in a run while they run or wait. -/
def givenUp (s : Session) : List Event → List Nat
  | [] => []
  | e :: es => (e.abandoned?.toList.filter (· ∈ s.roster)) ++ (s.step e).1.givenUp es

variable {s : Session} {e : Event} {es later : List Event}

/-- The numbers of the operations that wait. -/
def queue (s : Session) : List Nat := s.navigator.waiting.map (·.1)

/-- The queue after an event that begins no operation. -/
def queueAfter (s : Session) (e : Event) : List Nat :=
  (s.queue ++ e.number?.toList).filter fun id => e.abandoned? ≠ some id

@[simp] theorem queueAfter_move (s : Session) : s.queueAfter .move = s.queue := by
  simp [queueAfter, Event.number?, Event.abandoned?]

/-- An event that neither is a move nor takes the running operation away. -/
theorem queue_step (he : e ≠ .move)
    (hgone : ∀ op, s.navigator.active = some op → e ≠ .abandon op.id) :
    (s.step e).1.queue = s.queueAfter e := by
  cases e with
  | move => exact absurd rfl he
  | abandon id =>
      have hfilter : s.queueAfter (.abandon id) =
          (s.navigator.waiting.filter fun w => w.1 ≠ id).map (·.1) := by
        simp only [queueAfter, queue, Event.number?, Event.abandoned?, Option.toList_none,
          List.append_nil, List.filter_map]
        congr 2
        funext w
        simp [eq_comm]
      rw [hfilter]
      cases h : s.navigator.active with
      | none => simp [step, Navigator.abandon, h, queue]
      | some op =>
          have hid : op.id ≠ id := fun heq => hgone op h (heq ▸ rfl)
          simp [step, Navigator.abandon, h, hid, queue]
  | request id r =>
      simp [step, queue, queueAfter, Navigator.request, Event.number?, Event.abandoned?]
  | _ => simp [step, queue, queueAfter, Event.number?, Event.abandoned?, Navigator.answer,
      Navigator.cancel]

/-- A move of the running operation lets nobody out of the queue. -/
theorem queue_step_move {op : ActiveOperation} (h : s.navigator.active = some op) :
    (s.step .move).1.queue = s.queue := by
  rw [queue, step_move_waiting h, queue]

/-- **What one step is to the turns.** The next operation begins, and nothing else happens;
or the running operation leaves, ended or given up; or whoever runs goes on, and the queue
gets longer or somebody leaves it. -/
theorem step_turn (s : Session) (e : Event) :
    (∃ id r rest, e = .move ∧ s.navigator.active = none ∧ s.queue = id :: rest ∧
      (s.step e).1.navigator.active = some ⟨id, false, .begun r⟩ ∧ (s.step e).1.queue = rest ∧
      (s.step e).2 = [.begins id]) ∨
    (∃ op, s.navigator.active = some op ∧ (s.step e).1.navigator.active = none ∧
      (s.step e).1.queue = s.queue ∧ (∀ a ∈ (s.step e).2, a.IsOf op.id) ∧ e.number? = none ∧
      ((∃ ending, (s.step e).2.getLast? = some (.ends op.id ending)) ∨ e = .abandon op.id)) ∨
    ((s.step e).1.navigator.active.map (·.id) = s.navigator.active.map (·.id) ∧
      (s.step e).1.queue = s.queueAfter e ∧
      ∀ a ∈ (s.step e).2, ∃ op, s.navigator.active = some op ∧ a.IsOf op.id) := by
  cases hactive : s.navigator.active with
  | none =>
      by_cases he : e = .move
      · subst he
        cases hw : s.navigator.waiting with
        | nil =>
            rw [step_move_idle hactive hw]
            exact .inr (.inr ⟨by rw [hactive], (queueAfter_move s).symm, by simp⟩)
        | cons w rest =>
            obtain ⟨id, r⟩ := w
            rw [step_move_begins hactive hw]
            exact .inl ⟨id, r, rest.map (·.1), rfl, rfl, by simp [queue, hw], rfl, rfl, rfl⟩
      · have hstep := step_of_idle hactive he
        refine .inr (.inr ⟨by rw [hstep.1], queue_step he (by simp [hactive]), ?_⟩)
        rw [hstep.2]
        simp
  | some op =>
      obtain ⟨hnext, hacts⟩ := step_running hactive e
      have hown : ∀ a ∈ (s.step e).2, a.IsOf op.id := by
        rw [hacts]
        exact fun a ha => ActiveOperation.isOf_of_mem_react ha
      cases hreact : (op.react s.navigator.settings s.now s.telemetry e).1 with
      | none =>
          rw [hreact] at hnext
          refine .inr (.inl ⟨op, rfl, hnext, ?_, hown, ?_, ?_⟩)
          · exact congrArg (List.map (·.1)) (step_waiting_of_none hactive hnext)
          · cases e with
            | request id r => simp [ActiveOperation.react] at hreact
            | _ => rfl
          · rw [hacts]
            exact ActiveOperation.ends_of_react hreact
      | some next =>
          rw [hreact] at hnext
          refine .inr (.inr ⟨?_, ?_, fun a ha => ⟨op, rfl, hown a ha⟩⟩)
          · rw [hnext, Option.map_some, Option.map_some, ActiveOperation.react_id hreact]
          · by_cases he : e = .move
            · subst he
              rw [queue_step_move hactive, queueAfter_move]
            · refine queue_step he fun op' hop' heq => ?_
              obtain rfl : op = op' := Option.some.inj (hactive.symm.trans hop')
              simp [heq, ActiveOperation.react] at hreact

/-- With no operation running and none that begins, nothing is done. -/
theorem idle_of_stays (hidle : s.navigator.active = none)
    (hsame : (s.step e).1.navigator.active.map (·.id) = s.navigator.active.map (·.id))
    (hown : ∀ a ∈ (s.step e).2, ∃ op, s.navigator.active = some op ∧ a.IsOf op.id) :
    (s.step e).1.navigator.active = none ∧ (s.step e).2 = [] := by
  rw [hidle] at hsame
  refine ⟨Option.map_eq_none_iff.mp hsame, List.eq_nil_iff_forall_not_mem.mpr fun a ha => ?_⟩
  obtain ⟨op, hop, -⟩ := hown a ha
  cases hidle.symm.trans hop

/-! ## A run in turns -/

/-- **A run in turns**, as far as it has come. -/
structure InTurns (s : Session) (requests gone : List Nat) (acts : List NavigatorAct)
    (turns : List Turn) : Prop where
  acts : acts = turns.flatMap Turn.acts
  own : ∀ t ∈ turns, t.IsOwn
  ordered : (turns.map (·.id) ++ s.queue).Sublist requests
  passed_over : ∀ id ∈ requests, id ∈ turns.map (·.id) ++ s.queue ∨ id ∈ gone
  running : match s.navigator.active with
    | some op => ∃ earlier last, turns = earlier ++ [last] ∧ last.id = op.id ∧
        ∀ t ∈ earlier, t.IsOver gone
    | none => ∀ t ∈ turns, t.IsOver gone

namespace InTurns

variable {requests gone : List Nat} {acts : List NavigatorAct} {turns : List Turn}

theorem new (settings : NavigatorSettings) (capacity : Nat) :
    (Session.new settings capacity).InTurns [] [] [] [] where
  acts := rfl
  own := by simp
  ordered := List.Sublist.refl _
  passed_over := by simp
  running := by simp [Session.new, Navigator.new]

/-- The queue after an event is in order, and whoever is missing was given up. -/
theorem queue_kept (h : s.InTurns requests gone acts turns) (e : Event) :
    (turns.map (·.id) ++ s.queueAfter e).Sublist (requests ++ e.number?.toList) ∧
      ∀ id ∈ requests ++ e.number?.toList, id ∈ turns.map (·.id) ++ s.queueAfter e ∨
        id ∈ gone ++ e.abandoned?.toList.filter (· ∈ s.roster) := by
  constructor
  · have hfilter : (s.queueAfter e).Sublist (s.queue ++ e.number?.toList) := List.filter_sublist
    refine (hfilter.append_left _).trans ?_
    rw [← List.append_assoc]
    exact h.ordered.append_right _
  · intro id hid
    have hcases : id ∈ turns.map (·.id) ∨ id ∈ s.queue ++ e.number?.toList ∨ id ∈ gone := by
      rcases List.mem_append.mp hid with hold | hnew
      · rcases h.passed_over id hold with hthere | hgone
        · exact (List.mem_append.mp hthere).imp_right fun hq => .inl (List.mem_append_left _ hq)
        · exact .inr (.inr hgone)
      · exact .inr (.inl (List.mem_append_right _ hnew))
    rcases hcases with hturn | hqueue | hgone
    · exact .inl (List.mem_append_left _ hturn)
    · by_cases habandon : e.abandoned? = some id
      · -- whoever is given up while it waits is missing from now on
        cases e with
        | abandon owner =>
            obtain rfl : owner = id := by simpa [Event.abandoned?] using habandon
            have hwaits : owner ∈ s.roster := by
              simp only [Event.number?, Option.toList_none, List.append_nil] at hqueue
              exact List.mem_append_right _ hqueue
            exact .inr (List.mem_append_right _ (by simp [Event.abandoned?, hwaits]))
        | _ => simp [Event.abandoned?] at habandon
      · exact .inl (List.mem_append_right _ (List.mem_filter.mpr ⟨hqueue, by simpa using habandon⟩))
    · exact .inr (List.mem_append_left _ hgone)

/-- The running operation's turn with more acts. -/
theorem further {earlier : List Turn} {last : Turn} {more : List NavigatorAct}
    (h : s.InTurns requests gone acts (earlier ++ [last])) (hmore : ∀ a ∈ more, a.IsOf last.id) :
    acts ++ more = (earlier ++ [last.further more]).flatMap Turn.acts ∧
      (∀ t ∈ earlier ++ [last.further more], t.IsOwn) ∧
      (earlier ++ [last.further more]).map (·.id) = (earlier ++ [last]).map (·.id) := by
  obtain ⟨hearlier, hlast⟩ := List.forall_mem_append.mp h.own
  refine ⟨by rw [h.acts, Turn.flatMap_acts_further], ?_, by simp [Turn.further]⟩
  rw [List.forall_mem_append, List.forall_mem_singleton]
  exact ⟨hearlier, (List.forall_mem_singleton.mp hlast).further hmore⟩

/-- **One step keeps a run in turns.** -/
theorem step (h : s.InTurns requests gone acts turns) (e : Event) :
    ∃ turns', (s.step e).1.InTurns (requests ++ e.number?.toList)
      (gone ++ e.abandoned?.toList.filter (· ∈ s.roster)) (acts ++ (s.step e).2) turns' := by
  have hrunning := h.running
  obtain ⟨hordered, hpassed⟩ := h.queue_kept e
  rcases s.step_turn e with
    ⟨id, r, rest, rfl, hidle, hqueue, hactive, hqueue', hacts⟩ |
    ⟨op, hactive, hidle, hqueue, hown, hnumber, hends⟩ | ⟨hsame, hqueue, hown⟩
  · -- the next operation's turn begins
    rw [hidle] at hrunning
    have hids : (turns ++ [Turn.mk id []]).map (·.id) ++ rest =
        turns.map (·.id) ++ s.queueAfter .move := by
      rw [queueAfter_move, hqueue]
      simp
    refine ⟨turns ++ [Turn.mk id []], ?_, ?_, ?_, ?_, ?_⟩
    · rw [hacts, h.acts, Turn.flatMap_acts_begun]
    · rw [List.forall_mem_append, List.forall_mem_singleton]
      exact ⟨h.own, Turn.isOwn_begun id⟩
    · rw [hqueue', hids]
      exact hordered
    · rw [hqueue', hids]
      exact hpassed
    · rw [hactive]
      exact ⟨turns, _, rfl, rfl, fun t ht => (hrunning t ht).mono _⟩
  · -- the running operation's turn is over
    rw [hactive] at hrunning
    obtain ⟨earlier, last, rfl, hid, hover⟩ := hrunning
    rw [← hid] at hown hends
    obtain ⟨hacts, hturns, hids⟩ := h.further hown
    refine ⟨earlier ++ [last.further (s.step e).2], hacts, hturns, ?_, ?_, ?_⟩
    · rw [hids, hqueue, hnumber, Option.toList_none, List.append_nil]
      exact h.ordered
    · rw [hids, hqueue, hnumber, Option.toList_none, List.append_nil]
      exact fun id hrequest => (h.passed_over id hrequest).imp_right (List.mem_append_left _)
    · rw [hidle]
      rw [List.forall_mem_append, List.forall_mem_singleton]
      refine ⟨fun t ht => (hover t ht).mono _, ?_⟩
      rcases hends with ⟨ending, hlast⟩ | rfl
      · refine .inl ⟨ending, ?_⟩
        rw [Turn.further, List.getLast?_append, hlast]
        rfl
      · have hthere : last.id ∈ s.roster := by simp [roster, hactive, hid]
        exact .inr (List.mem_append_right _ (by simp [Event.abandoned?, hthere, Turn.further]))
  · -- whoever runs goes on
    cases hactive : s.navigator.active with
    | none =>
        rw [hactive] at hrunning
        obtain ⟨hidle, hnone⟩ := idle_of_stays hactive hsame hown
        rw [hnone, List.append_nil]
        refine ⟨turns, h.acts, h.own, hqueue ▸ hordered, hqueue ▸ hpassed, ?_⟩
        rw [hidle]
        exact fun t ht => (hrunning t ht).mono _
    | some op =>
        rw [hactive] at hrunning hsame
        obtain ⟨next, hnext, hid'⟩ := Option.map_eq_some_iff.mp hsame
        obtain ⟨earlier, last, rfl, hid, hover⟩ := hrunning
        have hown' : ∀ a ∈ (s.step e).2, a.IsOf last.id := by
          intro a ha
          obtain ⟨op', hop', hisOf⟩ := hown a ha
          obtain rfl : op = op' := Option.some.inj (hactive.symm.trans hop')
          exact hid ▸ hisOf
        obtain ⟨hacts, hturns, hids⟩ := h.further hown'
        refine ⟨earlier ++ [last.further (s.step e).2], hacts, hturns, ?_, ?_, ?_⟩
        · rw [hids, hqueue]
          exact hordered
        · rw [hids, hqueue]
          exact hpassed
        · rw [hnext]
          exact ⟨earlier, _, rfl, hid.trans hid'.symm, fun t ht => (hover t ht).mono _⟩

/-- **Every run is a run in turns.** -/
theorem run (h : s.InTurns requests gone acts turns) (es : List Event) :
    ∃ turns', (s.after es).InTurns (requests ++ requested es) (gone ++ s.givenUp es)
      (acts ++ s.acts es) turns' := by
  induction es generalizing s requests gone acts turns with
  | nil => exact ⟨turns, by simpa [givenUp] using h⟩
  | cons e es ih =>
      obtain ⟨turns', h'⟩ := h.step e
      rw [requested_cons, givenUp, acts_cons, after_cons]
      simp only [← List.append_assoc]
      exact ih h'

end InTurns

end Session

/-! ## Unanswered calls -/

/-- An act that goes on to no stage with an unanswered call, unless it makes that call. -/
def Act.isCalm : Act → Bool
  | .enter stage => !stage.isAwaiting
  | _ => true

theorem Act.finishes_or_enters {a : Act} (honward : a.isOnward = true) (hcalm : a.isCalm = true) :
    (∃ ending, a = .finish ending) ∨ ∃ next, a = .enter next ∧ next.isAwaiting = false := by
  cases a with
  | enter next => exact .inr ⟨next, rfl, by simpa [isCalm] using hcalm⟩
  | call linkCall next => cases honward
  | finish ending => exact .inl ⟨ending, rfl⟩

theorem Move.enterTimed_isCalm {settings : NavigatorSettings} {now : Instant}
    {shows : Option NavState} {stage : Instant → Stage}
    (h : ∀ deadline, (stage deadline).isAwaiting = false) :
    (Move.enterTimed settings now shows stage).act.isCalm = true := by
  unfold Move.enterTimed
  split
  · simp [Act.isCalm, h]
  · rfl

theorem Leg.next_isCalm (settings : NavigatorSettings) (now : Instant) (l : Leg) :
    (l.next settings now).act.isCalm = true := by
  unfold Leg.next
  repeat' split
  · exact Move.enterTimed_isCalm fun _ => rfl
  · exact Move.enterTimed_isCalm fun _ => rfl
  · rfl

theorem Request.begin_isCalm (settings : NavigatorSettings) (now : Instant)
    (telemetry : Aggregator) (r : Request) :
    (r.begin settings now telemetry).act.isCalm = true := by
  unfold Request.begin
  repeat' split
  all_goals first | rfl | exact Move.enterTimed_isCalm fun _ => rfl

theorem Task.accepted_isCalm (telemetry : Aggregator) (deadline : Instant) (task : Task) :
    (task.accepted telemetry deadline).act.isCalm = true := by
  unfold Task.accepted
  repeat' split
  all_goals rfl

theorem Sight.followUp_isCalm (settings : NavigatorSettings) (now : Instant)
    (telemetry : Aggregator) (deadline : Instant) (sight : Sight) :
    (sight.followUp settings now telemetry deadline).act.isCalm = true := by
  unfold Sight.followUp Leg.arrive
  repeat' split
  all_goals first | rfl | exact Leg.next_isCalm _ _ _

/-- **What a move does to the answer outstanding.** A move with one outstanding ends the
operation; a move without one leaves one outstanding just if it makes a call. -/
theorem Stage.isAwaiting_of_move {settings : NavigatorSettings} {now : Instant}
    {telemetry : Aggregator} {cancelled : Bool} {stage : Stage} {m : Move}
    (hm : stage.move settings now telemetry cancelled = some m) :
    (∃ ending, m.act = .finish ending) ∨
    (stage.isAwaiting = false ∧ ∃ next, m.act = .enter next ∧ next.isAwaiting = false) ∨
    (stage.isAwaiting = false ∧ ∃ call next, m.act = .call call next ∧
      next.isAwaiting = true) := by
  cases moves_of_move hm with
  | begins _ request =>
      exact (Act.finishes_or_enters (Request.begin_isOnward _ _ _ _)
        (Request.begin_isCalm _ _ _ _)).imp_right fun h => .inl ⟨rfl, h⟩
  | calls task deadline => exact .inr (.inr ⟨rfl, _, _, rfl, rfl⟩)
  | accepted task deadline =>
      exact (Act.finishes_or_enters (Task.accepted_isOnward _ _ _)
        (Task.accepted_isCalm _ _ _)).imp_right fun h => .inl ⟨rfl, h⟩
  | sees sight deadline hseen =>
      exact (Act.finishes_or_enters (Sight.followUp_isOnward _ _ _ _ _)
        (Sight.followUp_isCalm _ _ _ _ _)).imp_right fun h => .inl ⟨rfl, h⟩
  | hovers l wake hlate =>
      exact (Act.finishes_or_enters (Leg.next_isOnward _ _ _)
        (Leg.next_isCalm _ _ _)).imp_right fun h => .inl ⟨rfl, h⟩
  | _ => exact .inl ⟨_, rfl⟩

/-- What an act does to the list of those whose calls are unanswered. -/
def NavigatorAct.pend (pending : List Nat) : NavigatorAct → List Nat
  | .calls id _ => pending ++ [id]
  | .givesUp id => pending.erase id
  | _ => pending

/-- What an event does to that list before anything is done: an answer is for the call made
last. -/
def Session.Event.pend (pending : List Nat) : Session.Event → List Nat
  | .answer _ => pending.dropLast
  | _ => pending

theorem Navigator.call_of_mem_carryOut {n : Navigator} {op : ActiveOperation} {m : Move}
    {a : NavigatorAct} (ha : a ∈ (n.carryOut op m).2) (hcall : a.call? ≠ none) :
    ∃ linkCall next, m.act = .call linkCall next := by
  rcases m with ⟨shows, _ | _ | _ | _⟩ <;> cases shows <;>
    grind [carryOut, dropped, NavigatorAct.call?]

namespace ActiveOperation

/-- The operation itself, if the answer to a call of it is outstanding. -/
def unanswered (op : ActiveOperation) : List Nat := if op.stage.isAwaiting then [op.id] else []

theorem unanswered_hear (op : ActiveOperation) (e : Session.Event) :
    (op.hear e).unanswered = e.pend op.unanswered := by
  cases e with
  | answer reply =>
      obtain ⟨id, cancelled, stage⟩ := op
      cases stage with
      | awaiting task deadline answered => cases answered <;> rfl
      | _ => rfl
  | _ => rfl

theorem pend_dropped (op : ActiveOperation) :
    (Navigator.dropped op).foldl NavigatorAct.pend op.unanswered = [] := by
  unfold Navigator.dropped unanswered
  cases op.stage.isAwaiting <;> simp [NavigatorAct.pend]

/-- What a move does to the calls that are unanswered. -/
theorem pend_carryOut {settings : NavigatorSettings} {now : Instant} {telemetry : Aggregator}
    {op : ActiveOperation} {m : Move} (n : Navigator)
    (hm : op.stage.move settings now telemetry op.cancelled = some m) :
    (n.carryOut op m).2.foldl NavigatorAct.pend op.unanswered =
      ((m.act.stage?.map fun stage => { op with stage := stage }).map (·.unanswered)).getD [] := by
  have hshown : ∀ pending, (m.shows.toList.map NavigatorAct.shows).foldl NavigatorAct.pend
      pending = pending := by
    intro pending
    cases m.shows <;> rfl
  rcases Stage.isAwaiting_of_move hm with
    ⟨ending, hact⟩ | ⟨hold, next, hact, hnext⟩ | ⟨hold, linkCall, next, hact, hnext⟩
  · cases ending with
    | overflow =>
        simp [Navigator.carryOut, hact, hshown, pend_dropped, Act.stage?, NavigatorAct.pend]
    | outcome outcome =>
        simp [Navigator.carryOut, hact, hshown, pend_dropped, Act.stage?, NavigatorAct.pend]
  · simp [Navigator.carryOut, hact, hshown, Act.stage?, unanswered, hold, hnext]
  · simp [Navigator.carryOut, hact, hshown, Act.stage?, unanswered, hold, hnext,
      NavigatorAct.pend]

/-- **What an event does to the calls of the running operation that are unanswered.** -/
theorem pend_react (settings : NavigatorSettings) (now : Instant) (telemetry : Aggregator)
    (op : ActiveOperation) (e : Session.Event) :
    (op.react settings now telemetry e).2.foldl NavigatorAct.pend (e.pend op.unanswered) =
      ((op.react settings now telemetry e).1.map (·.unanswered)).getD [] := by
  cases e with
  | move =>
      cases hm : op.stage.move settings now telemetry op.cancelled with
      | none => simp [react, hm, Session.Event.pend]
      | some m =>
          rw [react_move hm]
          exact pend_carryOut _ hm
  | abandon id =>
      by_cases hid : id = op.id
      · simp [react, hid, Session.Event.pend, pend_dropped]
      · simp [react, hid, Session.Event.pend]
  | _ => exact (op.unanswered_hear _).symm

/-- An operation that makes a call has no call unanswered. -/
theorem unanswered_of_calls {settings : NavigatorSettings} {now : Instant}
    {telemetry : Aggregator} {op : ActiveOperation} {e : Session.Event} {a : NavigatorAct}
    (ha : a ∈ (op.react settings now telemetry e).2) (hcall : a.call? ≠ none) :
    op.unanswered = [] := by
  cases e with
  | move =>
      cases hm : op.stage.move settings now telemetry op.cancelled with
      | none => simp [react, hm] at ha
      | some m =>
          rw [react_move hm] at ha
          obtain ⟨linkCall, next, hact⟩ := Navigator.call_of_mem_carryOut ha hcall
          rcases Stage.isAwaiting_of_move hm with
            ⟨ending, hfinish⟩ | ⟨hold, -⟩ | ⟨hold, -⟩
          · cases hact.symm.trans hfinish
          · simp [unanswered, hold]
          · simp [unanswered, hold]
  | abandon id => grind [react, Navigator.dropped, NavigatorAct.call?]
  | _ => simp [react] at ha

end ActiveOperation

namespace Session

variable {s : Session} {e : Event} {es : List Event}

/-- The operations whose calls are unanswered after a run, as the link sees it. -/
def pending (s : Session) (before : List Nat) : List Event → List Nat
  | [] => before
  | e :: es => (s.step e).1.pending ((s.step e).2.foldl NavigatorAct.pend (e.pend before)) es

/-- The running operation, if the answer to a call of it is outstanding. -/
def unanswered (s : Session) : List Nat := (s.navigator.active.map (·.unanswered)).getD []

/-- One step, as the link sees it. -/
theorem pend_step (s : Session) (e : Event) :
    (s.step e).2.foldl NavigatorAct.pend (e.pend s.unanswered) = (s.step e).1.unanswered := by
  cases hactive : s.navigator.active with
  | some op =>
      obtain ⟨hnext, hacts⟩ := step_running hactive e
      rw [unanswered, unanswered, hactive, hnext, hacts]
      exact ActiveOperation.pend_react _ _ _ op e
  | none =>
      have hnone : s.unanswered = [] := by rw [unanswered, hactive]; rfl
      rcases s.step_turn e with
        ⟨id, r, rest, rfl, -, -, hbegun, -, hacts⟩ | ⟨op, hop, -⟩ | ⟨hsame, -, hown⟩
      · rw [hnone, hacts, unanswered, hbegun]
        rfl
      · cases hactive.symm.trans hop
      · obtain ⟨hidle, hacts⟩ := idle_of_stays hactive hsame hown
        rw [hnone, hacts, unanswered, hidle]
        cases e <;> rfl

/-- **What is pending is the unanswered call of the running operation**, and nothing if there
is none. -/
theorem pending_eq (s : Session) (es : List Event) :
    s.pending s.unanswered es = (s.after es).unanswered := by
  induction es generalizing s with
  | nil => rfl
  | cons e es ih => rw [pending, pend_step, ih, after_cons]

/-- An operation that begins, or makes a call, has the link to itself. -/
theorem unanswered_of_acts {a : NavigatorAct} (ha : a ∈ (s.step e).2)
    (hact : a.beginning? ≠ none ∨ a.call? ≠ none) : s.unanswered = [] := by
  cases hactive : s.navigator.active with
  | none => rw [unanswered, hactive]; rfl
  | some op =>
      rw [(step_running hactive e).2] at ha
      have hcall := hact.resolve_left fun h => h (ActiveOperation.isOf_of_mem_react ha).onward
      rw [unanswered, hactive]
      exact ActiveOperation.unanswered_of_calls ha hcall

/-! ## Every run takes turns -/

/-- A sublist is what a list without repetitions has of its members. -/
private theorem filter_mem_of_sublist {xs ys : List Nat} (h : xs.Sublist ys) (hys : ys.Nodup) :
    ys.filter (· ∈ xs) = xs := by
  induction h with
  | slnil => rfl
  | @cons xs ys y h ih =>
      obtain ⟨hy, hys⟩ := List.nodup_cons.mp hys
      rw [List.filter_cons_of_neg (by simpa using fun hmem => hy (h.subset hmem)), ih hys]
  | @cons_cons xs ys y h ih =>
      obtain ⟨hy, hys⟩ := List.nodup_cons.mp hys
      rw [List.filter_cons_of_pos (by simp)]
      congr 1
      rw [← ih hys]
      refine List.filter_congr fun z hz => ?_
      have hne : z ≠ y := fun heq => hy (heq ▸ hz)
      simp [hne, hz]

/-- Operations begin in the order of their requests, and whoever was given up while it waited
is passed over. -/
theorem InTurns.begins_in_order {requests gone : List Nat} {acts : List NavigatorAct}
    {turns : List Turn} (h : s.InTurns requests gone acts turns) (hrequests : requests.Nodup) :
    turns.map (·.id) <+:
      requests.filter fun id => id ∈ turns.map (·.id) ∨ id ∉ gone := by
  have hthere : ∀ id ∈ requests, (decide (id ∈ turns.map (·.id) ∨ id ∉ gone)) =
      (decide (id ∈ turns.map (·.id) ∨ id ∉ gone) &&
        decide (id ∈ turns.map (·.id) ++ s.queue)) := by
    intro id hid
    by_cases hkept : id ∈ turns.map (·.id) ∨ id ∉ gone
    · have hmem : id ∈ turns.map (·.id) ++ s.queue := by
        rcases hkept with hturn | hgone
        · exact List.mem_append_left _ hturn
        · exact (h.passed_over id hid).resolve_right hgone
      rw [decide_eq_true hkept, decide_eq_true hmem]
      rfl
    · rw [decide_eq_false hkept, Bool.false_and]
  rw [List.filter_congr hthere, ← List.filter_filter,
    filter_mem_of_sublist h.ordered hrequests, List.filter_append]
  have hturns : (turns.map (·.id)).filter
      (fun id => decide (id ∈ turns.map (·.id) ∨ id ∉ gone)) = turns.map (·.id) :=
    List.filter_eq_self.mpr fun id hid => decide_eq_true (.inl hid)
  rw [hturns]
  exact List.prefix_append _ _

/-- **Operations take turns** in a run. -/
structure TakesTurns (s : Session) (es : List Event) (turns : List Turn) : Prop where
  /-- What is done in a run is done in turns, one behind the other. -/
  in_turns : s.acts es = turns.flatMap Turn.acts
  /-- In a turn everything is done by its operation, and no other one begins. -/
  own : ∀ t ∈ turns, t.IsOwn
  /-- Every turn but the last one is over. -/
  finished : ∀ t ∈ turns.dropLast, t.IsOver (s.givenUp es)
  /-- Operations begin in the order in which they were requested; whoever was given up while
  it waited is passed over. -/
  ordered : turns.map (·.id) <+:
    (requested es).filter fun id => id ∈ turns.map (·.id) ∨ id ∉ s.givenUp es
  /-- Whoever has begun, and has neither ended nor been given up, is the running operation. -/
  running : ∀ t ∈ turns, endingsOf t.id (s.acts es) = [] → t.id ∉ s.givenUp es →
    (s.after es).navigator.active.map (·.id) = some t.id
  /-- The calls on the link are the calls of the single operations, in that order. -/
  calls : linkCalls (s.acts es) = (turns.map (·.id)).flatMap fun id => callsOf id (s.acts es)
  /-- When an operation begins, or makes a call, no call is unanswered that was not given
  up. -/
  undisturbed : ∀ before e later a, es = before ++ e :: later →
    a ∈ ((s.after before).step e).2 → a.beginning? ≠ none ∨ a.call? ≠ none →
    s.pending [] before = []

/-- **Every run takes turns**: whatever is requested, answered, told, cancelled and given up
at any times. -/
theorem operations_take_turns (settings : NavigatorSettings) (capacity : Nat)
    (es : List Event) (hnum : Numbered es) :
    ∃ turns, (new settings capacity).TakesTurns es turns := by
  obtain ⟨turns, h⟩ := (InTurns.new settings capacity).run es
  simp only [List.nil_append] at h
  have hids : (turns.map (·.id)).Nodup :=
    (List.nodup_append.mp (h.ordered.nodup hnum)).1
  have hrunning := h.running
  refine ⟨turns, h.acts, h.own, ?finished, ?ordered, ?running, ?calls, ?undisturbed⟩
  case finished =>
    cases hactive : ((new settings capacity).after es).navigator.active with
    | none =>
        rw [hactive] at hrunning
        exact fun t ht => hrunning t (List.dropLast_subset _ ht)
    | some op =>
        rw [hactive] at hrunning
        obtain ⟨earlier, last, rfl, -, hover⟩ := hrunning
        rw [List.dropLast_concat]
        exact hover
  case ordered =>
    exact h.begins_in_order hnum
  case running =>
    intro t ht hending hgone
    cases hactive : ((new settings capacity).after es).navigator.active with
    | none =>
        rw [hactive] at hrunning
        exact absurd hending ((hrunning t ht).endingsOf_ne_nil h.acts ht hgone)
    | some op =>
        rw [hactive] at hrunning
        obtain ⟨earlier, last, rfl, hid, hover⟩ := hrunning
        rcases List.mem_append.mp ht with hearlier | hlast
        · exact absurd hending ((hover t hearlier).endingsOf_ne_nil h.acts ht hgone)
        · rw [List.mem_singleton.mp hlast, hid]
          rfl
  case calls =>
    rw [h.acts]
    exact Turn.linkCalls_flatMap h.own hids
  case undisturbed =>
    intro before e later a hes ha hact
    have hnone := unanswered_of_acts ha hact
    rw [← pending_eq] at hnone
    exact hnone

/-- Two landings are requested, and the first one is cancelled when its call is unanswered. -/
def landingCancelledInCall : List Event :=
  [.request 0 (.land true), .request 1 (.land false), .move, .move, .move, .cancel, .move,
    .move, .move, .move]

/-- The first landing gives up its call and ends before the second one begins. -/
theorem operations_take_turns_cancelled :
    (∃ turns,
        (new ⟨4.0, 0.000003, .ofSeconds 120, .young⟩ 4).TakesTurns landingCancelledInCall turns) ∧
      actsOf 0 ((new ⟨4.0, 0.000003, .ofSeconds 120, .young⟩ 4).acts landingCancelledInCall) =
        [.begins 0, .calls 0 .land, .givesUp 0, .ends 0 (.outcome .cancelled)] ∧
      linkCalls ((new ⟨4.0, 0.000003, .ofSeconds 120, .young⟩ 4).acts landingCancelledInCall) =
        [.land, .land] :=
  ⟨operations_take_turns ⟨4.0, 0.000003, .ofSeconds 120, .young⟩ 4 landingCancelledInCall
    (by decide), rfl, rfl⟩

end Session

end GroundStation
