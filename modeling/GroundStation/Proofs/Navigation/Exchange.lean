import GroundStation.Proofs.Navigation.Waiting

/-!
# What an operation gets done

A call is made at the first move at which it is due, it is answered, and the operation takes
note of the answer at its next move: an exchange (`Session.Exchange`). A wait for something in
the telemetry ends at the first move at which it is there (`Session.Finds`). In between anything
may happen but what ends an operation: a cancellation, its caller giving it up, and a move that
finds the deadline passed and nothing to go on with.

An operation gets something done, a call or its arrival (`NavigatorAct.IsProgress`), only along
such pieces of a run. That is because an operation that dwells at a stage is left there by one
of four events (`Session.exists_exit`), and two of them leave it with nothing to get done.

## Main results

* `Session.Dwells.stays`: an operation that dwells at a stage does nothing.
* `Session.exists_exit`: how an operation that gets something done leaves a stage.
* `Session.exists_exchange`, `Session.exists_finds`: the pieces of the run in which it does.
* `Session.Exchange.done`, `Session.Finds.done`: what is done in them.
-/

namespace GroundStation

/-- What an operation does only as long as nothing has come in its way: a call, or its
arrival. -/
def NavigatorAct.IsProgress (id : Nat) (a : NavigatorAct) : Prop :=
  (∃ call, a = .calls id call) ∨ a = .ends id (.outcome .arrived)

theorem NavigatorAct.IsProgress.operation? {id : Nat} {a : NavigatorAct} (h : a.IsProgress id) :
    a.operation? = some id := by
  rcases h with ⟨call, rfl⟩ | rfl <;> rfl

/-- An unanswered call is waited for until the deadline. -/
theorem Stage.awaiting_waits_iff {settings : NavigatorSettings} {now : Instant}
    {telemetry : Aggregator} {task : Task} {deadline : Instant} :
    (Stage.awaiting task deadline none).move settings now telemetry false = none ↔
      now < deadline := by
  simp [Stage.move]

/-- A sight is waited for until it is there, or until the deadline. -/
theorem Stage.watching_waits_iff {settings : NavigatorSettings} {now : Instant}
    {telemetry : Aggregator} {sight : Sight} {deadline : Instant} :
    (Stage.watching sight deadline).move settings now telemetry false = none ↔
      ¬ sight.seen settings telemetry = true ∧ now < deadline := by
  by_cases hseen : sight.seen settings telemetry = true <;> simp [Stage.move, hseen]

namespace Session

variable {s : Session} {id : Nat} {stage : Stage} {es later : List Event} {e : Event}
  {a : NavigatorAct} {op : ActiveOperation}

/-! ## Nothing gets done -/

/-- What is absent gets nothing done. -/
theorem Absent.not_progress (h : s.Absent id es) (ha : a.IsProgress id) : a ∉ s.acts es := by
  intro hmem
  have hacts : a ∈ actsOf id (s.acts es) := List.mem_filter.mpr ⟨hmem, by simp [ha.operation?]⟩
  rw [actsOf_of_absent h] at hacts
  exact List.not_mem_nil hacts

/-- What is cancelled gets nothing done. -/
theorem not_progress_of_cancelled (hd : s.Distinct es) (h : s.navigator.active = some op)
    (hcancelled : op.cancelled = true) (hstage : op.stage.isUnderWay = true)
    (ha : a.IsProgress op.id) : a ∉ s.acts es := by
  obtain ⟨hcalls, hendings, -⟩ := acts_of_cancelled hd h hcancelled hstage
  intro hmem
  rcases ha with ⟨call, rfl⟩ | rfl
  · rw [← mem_callsOf, hcalls] at hmem
    exact List.not_mem_nil hmem
  · rw [← mem_endingsOf] at hmem
    cases hendings _ hmem

/-- What leaves with nothing done gets nothing done. -/
theorem not_progress_of_left (hd : s.Distinct (e :: es)) (h : s.navigator.active = some op)
    (hleft : (op.react s.navigator.settings s.now s.telemetry e).1 = none)
    (hnothing : a ∉ (op.react s.navigator.settings s.now s.telemetry e).2)
    (ha : a.IsProgress op.id) : a ∉ s.acts (e :: es) := by
  rw [acts_cons, List.mem_append, not_or, (step_running h e).2]
  exact ⟨hnothing, (absent_of_left hd h hleft).not_progress ha⟩

theorem not_progress_dropped (ha : a.IsProgress id) (op : ActiveOperation) :
    a ∉ Navigator.dropped op := by
  intro hmem
  obtain rfl := Navigator.eq_givesUp_of_mem_dropped hmem
  rcases ha with ⟨call, hcall⟩ | hend
  · cases hcall
  · cases hend

/-- A failure gets nothing done. -/
theorem not_progress_of_fails {failure : NavFailure} (hd : s.Distinct (Event.move :: es))
    (h : s.navigator.active = some op)
    (hm : op.stage.move s.navigator.settings s.now s.telemetry op.cancelled =
      some (.fail failure)) (ha : a.IsProgress op.id) : a ∉ s.acts (Event.move :: es) := by
  have hreact := ActiveOperation.react_move hm
  refine not_progress_of_left hd h (congrArg Prod.fst hreact) ?_ ha
  rw [hreact]
  have hdropped := not_progress_dropped ha op
  rcases ha with ⟨call, rfl⟩ | rfl <;>
    simp [Navigator.carryOut, Move.fail, Move.finish, hdropped]

/-! ## Dwelling at a stage -/

/-- A run in which an operation is neither cancelled nor given up. -/
structure Undisturbed (id : Nat) (es : List Event) : Prop where
  uncancelled : .cancel ∉ es
  kept : .abandon id ∉ es

/-- Every move of a run finds what `p` says of the events before it. -/
def AtMoves (p : List Event → Prop) (es : List Event) : Prop :=
  ∀ before after, es = before ++ .move :: after → p before

theorem undisturbed_append :
    Undisturbed id (es ++ later) ↔ Undisturbed id es ∧ Undisturbed id later := by
  constructor
  · intro h
    have hcancel := List.mem_append.not.mp h.uncancelled
    have habandon := List.mem_append.not.mp h.kept
    rw [not_or] at hcancel habandon
    exact ⟨⟨hcancel.1, habandon.1⟩, ⟨hcancel.2, habandon.2⟩⟩
  · intro h
    refine ⟨fun hmem => ?_, fun hmem => ?_⟩
    · exact (List.mem_append.mp hmem).elim h.1.uncancelled h.2.uncancelled
    · exact (List.mem_append.mp hmem).elim h.1.kept h.2.kept

theorem AtMoves.front {p : List Event → Prop} (h : AtMoves p (es ++ later)) : AtMoves p es :=
  fun before after hes => h before (after ++ later) (by simp [hes])

/-- The moves of a run are those before its last event, and that one. -/
theorem AtMoves.concat {p : List Event → Prop} (h : AtMoves p es) (he : e = .move → p es) :
    AtMoves p (es ++ [e]) := by
  intro before after hes
  rcases after.eq_nil_or_concat with rfl | ⟨rest, last, rfl⟩
  · obtain ⟨rfl, hlast⟩ := List.append_inj' hes rfl
    exact he (List.cons.inj hlast).1
  · rw [List.concat_eq_append, ← List.cons_append, ← List.append_assoc] at hes
    exact h before rest (List.append_inj' hes rfl).1

theorem AtMoves.mono {p q : List Event → Prop} (h : AtMoves p es)
    (hpq : ∀ part, p part → q part) : AtMoves q es :=
  fun before after hes => hpq before (h before after hes)

/-- A run without moves. -/
theorem atMoves_of_unmoved {p : List Event → Prop} (h : .move ∉ es) : AtMoves p es :=
  fun before after hes => absurd (by simp [hes]) h

/-- A run that leaves an operation at its stage: nothing gets in its way, nothing answers the
call that it may be waiting for, and every move finds it waiting. -/
structure Dwells (s : Session) (id : Nat) (stage : Stage) (es : List Event) : Prop where
  undisturbed : Undisturbed id es
  unanswered : stage.isAwaiting = true → ∀ reply, .answer reply ∉ es
  waits : AtMoves (fun part => stage.move s.navigator.settings (s.after part).now
    (s.after part).telemetry false = none) es

/-- How an operation may be made to leave its stage. -/
inductive Exits (s : Session) (id : Nat) (stage : Stage) : Event → Prop
  | cancelled : Exits s id stage .cancel
  | abandoned : Exits s id stage (.abandon id)
  | answered (h : stage.isAwaiting = true) (reply : Reply) : Exits s id stage (.answer reply)
  | moved {m : Move}
      (h : stage.move s.navigator.settings s.now s.telemetry false = some m) :
      Exits s id stage .move

theorem Dwells.front (h : s.Dwells id stage (es ++ later)) : s.Dwells id stage es where
  undisturbed := (undisturbed_append.mp h.undisturbed).1
  unanswered hawaiting reply hmem := h.unanswered hawaiting reply (List.mem_append_left _ hmem)
  waits := h.waits.front

/-- An event that does not make an operation leave its stage is nothing to it. -/
theorem react_of_not_exits (h : ¬ s.Exits id stage e) :
    (ActiveOperation.mk id false stage).react s.navigator.settings s.now s.telemetry e =
      (some ⟨id, false, stage⟩, []) := by
  cases e with
  | cancel => exact absurd .cancelled h
  | abandon owner =>
      have hother : owner ≠ id := fun heq => h (heq ▸ .abandoned)
      simp [ActiveOperation.react, hother]
  | answer reply =>
      have hquiet : stage.isAwaiting ≠ true := fun hawaiting => h (.answered hawaiting reply)
      cases stage with
      | awaiting task deadline old =>
          cases old with
          | none => exact absurd rfl hquiet
          | some old => rfl
      | _ => rfl
  | move =>
      cases hm : stage.move s.navigator.settings s.now s.telemetry false with
      | some m => exact absurd (.moved hm) h
      | none => simp [ActiveOperation.react, hm]
  | _ => rfl

/-- Nothing makes an operation leave the stage at which it dwells. -/
theorem Dwells.not_exits (h : s.Dwells id stage (es ++ e :: later)) :
    ¬ (s.after es).Exits id stage e := by
  intro hexits
  cases hexits with
  | cancelled => exact h.undisturbed.uncancelled (by simp)
  | abandoned => exact h.undisturbed.kept (by simp)
  | answered hawaiting reply => exact h.unanswered hawaiting reply (by simp)
  | moved hm =>
      rw [after_settings, h.waits es later rfl] at hm
      cases hm

/-- An operation that is not made to leave goes on dwelling. -/
theorem Dwells.concat (h : s.Dwells id stage es) (he : ¬ (s.after es).Exits id stage e) :
    s.Dwells id stage (es ++ [e]) where
  undisturbed := by
    refine undisturbed_append.mpr ⟨h.undisturbed, fun hmem => ?_, fun hmem => ?_⟩
    · exact he (List.mem_singleton.mp hmem ▸ .cancelled)
    · exact he (List.mem_singleton.mp hmem ▸ .abandoned)
  unanswered hawaiting reply hmem := by
    rcases List.mem_append.mp hmem with hearlier | hlast
    · exact h.unanswered hawaiting reply hearlier
    · exact he (List.mem_singleton.mp hlast ▸ .answered hawaiting reply)
  waits := by
    refine h.waits.concat fun heq => Option.eq_none_iff_forall_ne_some.mpr fun m hm => he ?_
    rw [← after_settings s es] at hm
    exact heq ▸ .moved hm

/-- **An operation that dwells at a stage does nothing.** -/
theorem Dwells.stays (h : s.Dwells id stage es)
    (hactive : s.navigator.active = some ⟨id, false, stage⟩) :
    (s.after es).navigator.active = some ⟨id, false, stage⟩ ∧ s.acts es = [] := by
  induction es using List.reverseRecOn with
  | nil => exact ⟨hactive, rfl⟩
  | append_singleton es e ih =>
      obtain ⟨hstays, hnothing⟩ := ih h.front
      obtain ⟨hnext, hacts⟩ := step_running hstays e
      rw [react_of_not_exits h.not_exits] at hnext hacts
      rw [after_append, acts_append, hnothing]
      exact ⟨hnext, by rw [acts_cons, hacts]; rfl⟩

/-- A run leaves an operation at its stage, or there is a first event that does not. -/
theorem dwells_or_exits (s : Session) (id : Nat) (stage : Stage) (es : List Event) :
    s.Dwells id stage es ∨ ∃ before e after, es = before ++ e :: after ∧
      s.Dwells id stage before ∧ (s.after before).Exits id stage e := by
  induction es using List.reverseRecOn with
  | nil => exact .inl ⟨⟨by simp, by simp⟩, by simp, atMoves_of_unmoved (by simp)⟩
  | append_singleton es e ih =>
      rcases ih with hdwells | ⟨before, first, after, rfl, hbefore, hexits⟩
      · by_cases hexits : (s.after es).Exits id stage e
        · exact .inr ⟨es, e, [], rfl, hdwells, hexits⟩
        · exact .inl (hdwells.concat hexits)
      · exact .inr ⟨before, first, after ++ [e], by simp, hbefore, hexits⟩

/-- **How an operation that gets something done leaves a stage**: the call that it waits for is
answered, or it moves, and not because it failed. -/
theorem exists_exit (hd : s.Distinct es) (h : s.navigator.active = some ⟨id, false, stage⟩)
    (hstage : stage.isUnderWay = true) (ha : a.IsProgress id) (hmem : a ∈ s.acts es) :
    ∃ before e after, es = before ++ e :: after ∧ s.Dwells id stage before ∧
      a ∈ (s.after before).acts (e :: after) ∧
      ((stage.isAwaiting = true ∧ ∃ reply, e = .answer reply) ∨
        (e = .move ∧ ∃ m, stage.move s.navigator.settings (s.after before).now
          (s.after before).telemetry false = some m ∧ ∀ failure, m ≠ .fail failure)) := by
  rcases s.dwells_or_exits id stage es with hdwells | ⟨before, e, after, rfl, hdwells, hexits⟩
  · rw [(hdwells.stays h).2] at hmem
    exact absurd hmem List.not_mem_nil
  · obtain ⟨hactive, hnothing⟩ := hdwells.stays h
    rw [acts_append, hnothing, List.nil_append] at hmem
    refine ⟨before, e, after, rfl, hdwells, hmem, ?_⟩
    cases hexits with
    | cancelled =>
        obtain ⟨hnext, hacts⟩ := step_running hactive .cancel
        rw [acts_cons, hacts] at hmem
        exact absurd hmem (not_progress_of_cancelled hd.after.step hnext rfl hstage ha)
    | abandoned =>
        refine absurd hmem (not_progress_of_left hd.after hactive ?_ ?_ ha)
        · simp [ActiveOperation.react]
        · simp only [ActiveOperation.react, if_true]
          exact not_progress_dropped ha _
    | answered hawaiting reply => exact .inl ⟨hawaiting, reply, rfl⟩
    | @moved m hm =>
        refine .inr ⟨rfl, m, after_settings s before ▸ hm, ?_⟩
        rintro failure rfl
        exact not_progress_of_fails hd.after hactive hm ha hmem

/-- What is done in a run that leaves an operation at its stage, and in the move after it. -/
theorem Dwells.done {m : Move} (h : s.Dwells id stage es)
    (hactive : s.navigator.active = some ⟨id, false, stage⟩)
    (hm : stage.move s.navigator.settings (s.after es).now (s.after es).telemetry false =
      some m) :
    (s.after (es ++ [.move])).navigator.active =
        m.act.stage?.map (fun next => ⟨id, false, next⟩) ∧
      s.acts (es ++ [.move]) =
        ((Navigator.new s.navigator.settings).carryOut ⟨id, false, stage⟩ m).2 := by
  obtain ⟨hstays, hnothing⟩ := h.stays hactive
  rw [← after_settings s es] at hm ⊢
  obtain ⟨hnext, hacts⟩ := step_running hstays .move
  rw [ActiveOperation.react_move hm] at hnext hacts
  rw [after_append, acts_append, hnothing, List.nil_append, acts_cons, acts_nil, List.append_nil]
  exact ⟨hnext, hacts⟩

/-! ## A call, and its answer -/

variable {task : Task} {deadline : Instant}

/-- A call that is due is made, at the first move. -/
def Makes (id : Nat) (es : List Event) : Prop :=
  ∃ due, es = due ++ [.move] ∧ Undisturbed id due ∧ .move ∉ due

/-- A call that is made is answered with consent, as long as every move finds the deadline
ahead, and the operation takes note of that at its next move. -/
def IsAccepted (s : Session) (id : Nat) (deadline : Instant) (es : List Event) : Prop :=
  ∃ pending answered, es = (pending ++ [.answer (.ok ())]) ++ (answered ++ [.move]) ∧
    Undisturbed id pending ∧ (∀ reply, .answer reply ∉ pending) ∧
    AtMoves (fun part => (s.after part).now < deadline) pending ∧
    Undisturbed id answered ∧ .move ∉ answered

/-- **An exchange**: a call that is due is made, and it is answered with consent in time. -/
def Exchange (s : Session) (id : Nat) (deadline : Instant) (es : List Event) : Prop :=
  ∃ call reply, es = call ++ reply ∧ Makes id call ∧ (s.after call).IsAccepted id deadline reply

/-- Where an operation moves whenever it can, it dwells in a run without moves only. -/
theorem Dwells.unmoved (h : s.Dwells id stage es)
    (hmoves : ∀ settings now telemetry, stage.move settings now telemetry false ≠ none) :
    .move ∉ es := by
  intro hmem
  obtain ⟨before, after, hes⟩ := List.append_of_mem hmem
  exact hmoves _ _ _ (h.waits before after hes)

theorem Makes.done (h : Makes id es)
    (hactive : s.navigator.active = some ⟨id, false, .calling task deadline⟩) :
    (s.after es).navigator.active = some ⟨id, false, .awaiting task deadline none⟩ ∧
      s.acts es = [.calls id (task.call s.navigator.settings)] := by
  obtain ⟨due, rfl, hquiet, hunmoved⟩ := h
  have hdwells : s.Dwells id (.calling task deadline) due :=
    ⟨hquiet, nofun, atMoves_of_unmoved hunmoved⟩
  exact hdwells.done hactive rfl

/-- An operation with a call ahead that gets something done makes it. -/
theorem exists_makes (hd : s.Distinct es)
    (h : s.navigator.active = some ⟨id, false, .calling task deadline⟩)
    (ha : a.IsProgress id) (hmem : a ∈ s.acts es) :
    ∃ call rest, es = call ++ rest ∧ Makes id call := by
  obtain ⟨due, e, rest, rfl, hdwells, -, hexits⟩ := exists_exit hd h rfl ha hmem
  rcases hexits with ⟨hawaiting, -⟩ | ⟨rfl, -⟩
  · cases hawaiting
  · have hunmoved := hdwells.unmoved fun _ _ _ => by simp [Stage.move]
    exact ⟨due ++ [.move], rest, by simp, due, rfl, hdwells.undisturbed, hunmoved⟩

theorem IsAccepted.done (h : s.IsAccepted id deadline es)
    (hactive : s.navigator.active = some ⟨id, false, .awaiting task deadline none⟩) :
    (s.after es).navigator.active =
        ((task.accepted (s.after es).telemetry deadline).act.stage?.map
          fun next => ⟨id, false, next⟩) ∧
      s.acts es = ((Navigator.new s.navigator.settings).carryOut
        ⟨id, false, .awaiting task deadline (some (.ok ()))⟩
          (task.accepted (s.after es).telemetry deadline)).2 := by
  obtain ⟨pending, answered, rfl, hquiet, hunanswered, hearly, hquiet', hunmoved⟩ := h
  have hpending : s.Dwells id (.awaiting task deadline none) pending :=
    ⟨hquiet, fun _ => hunanswered, hearly.mono fun _ => Stage.awaiting_waits_iff.mpr⟩
  obtain ⟨hstays, hnothing⟩ := hpending.stays hactive
  -- the answer changes the stage, and nothing is done at it
  have hanswer : (s.after (pending ++ [.answer (.ok ())])).navigator.active =
      some ⟨id, false, .awaiting task deadline (some (.ok ()))⟩ := by
    rw [after_append]
    exact (step_running hstays (.answer (.ok ()))).1
  have hsilent : s.acts (pending ++ [.answer (.ok ())]) = [] := by
    rw [acts_append, hnothing]
    rfl
  have hanswered : (s.after (pending ++ [.answer (.ok ())])).Dwells id
      (.awaiting task deadline (some (.ok ()))) answered :=
    ⟨hquiet', nofun, atMoves_of_unmoved hunmoved⟩
  have hdone := hanswered.done hanswer (m := task.accepted _ deadline) rfl
  have htelemetry := step_inside (((s.after (pending ++ [.answer (.ok ())])).after answered))
    (e := .move) rfl
  rw [after_append, acts_append, hsilent, List.nil_append, hdone.1, hdone.2, after_settings,
    after_append (s.after _) answered [.move], after_cons, after_nil, htelemetry.2]
  exact ⟨rfl, rfl⟩

/-- An operation with an unanswered call that gets something done has it answered with consent. -/
theorem exists_accepted (hd : s.Distinct es)
    (h : s.navigator.active = some ⟨id, false, .awaiting task deadline none⟩)
    (ha : a.IsProgress id) (hmem : a ∈ s.acts es) :
    ∃ reply rest, es = reply ++ rest ∧ s.IsAccepted id deadline reply := by
  obtain ⟨pending, e, later, rfl, hpending, hmem, hexits⟩ := exists_exit hd h rfl ha hmem
  rcases hexits with ⟨-, reply, rfl⟩ | ⟨rfl, m, hm, hgoes⟩
  · obtain ⟨hanswer, hsilent⟩ := step_running (hpending.stays h).1 (.answer reply)
    rw [acts_cons, hsilent] at hmem
    obtain ⟨answered, e, rest, rfl, hanswered, -, hexits⟩ :=
      exists_exit hd.after.step hanswer rfl ha hmem
    rcases hexits with ⟨hawaiting, -⟩ | ⟨rfl, m, hm, hgoes⟩
    · cases hawaiting
    · cases reply with
      | error e => exact absurd (Option.some.inj hm).symm (hgoes _)
      | ok =>
          have hunmoved := hanswered.unmoved fun _ _ _ => by simp [Stage.move]
          refine ⟨(pending ++ [.answer (.ok ())]) ++ (answered ++ [.move]), rest, by simp,
            pending, answered, rfl, hpending.undisturbed, hpending.unanswered rfl, ?_,
            hanswered.undisturbed, hunmoved⟩
          exact hpending.waits.mono fun _ => Stage.awaiting_waits_iff.mp
  · simp only [Stage.move, Bool.false_eq_true, if_false] at hm
    split at hm
    · exact absurd (Option.some.inj hm).symm (hgoes _)
    · cases hm

theorem Exchange.done (h : s.Exchange id deadline es)
    (hactive : s.navigator.active = some ⟨id, false, .calling task deadline⟩) :
    (s.after es).navigator.active =
        ((task.accepted (s.after es).telemetry deadline).act.stage?.map
          fun next => ⟨id, false, next⟩) ∧
      s.acts es = .calls id (task.call s.navigator.settings) ::
        ((Navigator.new s.navigator.settings).carryOut
          ⟨id, false, .awaiting task deadline (some (.ok ()))⟩
            (task.accepted (s.after es).telemetry deadline)).2 := by
  obtain ⟨call, reply, rfl, hcall, hreply⟩ := h
  obtain ⟨hawaiting, hcalled⟩ := hcall.done hactive
  obtain ⟨hnext, haccepted⟩ := hreply.done hawaiting
  rw [after_append, acts_append, hcalled, hnext, haccepted, after_settings]
  exact ⟨rfl, rfl⟩

/-- **An operation that gets more done than the call ahead has exchanged it.** -/
theorem exists_exchange (hd : s.Distinct es)
    (h : s.navigator.active = some ⟨id, false, .calling task deadline⟩)
    (ha : a.IsProgress id) (hne : a ≠ .calls id (task.call s.navigator.settings))
    (hmem : a ∈ s.acts es) :
    ∃ exchange rest, es = exchange ++ rest ∧ s.Exchange id deadline exchange := by
  obtain ⟨call, later, rfl, hcall⟩ := exists_makes hd h ha hmem
  obtain ⟨hawaiting, hcalled⟩ := hcall.done h
  rw [acts_append, hcalled, List.mem_append, List.mem_singleton] at hmem
  obtain ⟨reply, rest, rfl, hreply⟩ :=
    exists_accepted hd.after hawaiting ha (hmem.resolve_left hne)
  exact ⟨call ++ reply, rest, by simp, call, reply, rfl, hcall, hreply⟩

/-! ## Something to see -/

variable {sight : Sight} {found : List Event → Prop}

/-- A wait for something ends well: nothing gets in its way, no move finds it there, nor the
deadline passed, and then it is there. -/
structure Finds (s : Session) (id : Nat) (deadline : Instant) (found : List Event → Prop)
    (es : List Event) : Prop where
  undisturbed : Undisturbed id es
  early : AtMoves (fun part => ¬ found part ∧ (s.after part).now < deadline) es
  found : found es

/-- What an operation looks for is there after a part of a run just when `found` says so. -/
def Shows (s : Session) (sight : Sight) (found : List Event → Prop) : Prop :=
  ∀ part, found part ↔ sight.seen s.navigator.settings (s.after part).telemetry = true

theorem Finds.done (h : s.Finds id deadline found es) (hfound : s.Shows sight found)
    (hactive : s.navigator.active = some ⟨id, false, .watching sight deadline⟩) :
    (s.after (es ++ [.move])).navigator.active =
        ((sight.followUp s.navigator.settings (s.after es).now (s.after es).telemetry
          deadline).act.stage?.map fun next => ⟨id, false, next⟩) ∧
      s.acts (es ++ [.move]) = ((Navigator.new s.navigator.settings).carryOut
        ⟨id, false, .watching sight deadline⟩ (sight.followUp s.navigator.settings
          (s.after es).now (s.after es).telemetry deadline)).2 := by
  have hdwells : s.Dwells id (.watching sight deadline) es := by
    refine ⟨h.undisturbed, nofun, h.early.mono fun part hpart => ?_⟩
    rw [hfound part] at hpart
    exact Stage.watching_waits_iff.mpr hpart
  refine hdwells.done hactive ?_
  simp [Stage.move, (hfound es).mp h.found]

/-- **An operation with something to see that gets something done has found it.** -/
theorem exists_finds (hd : s.Distinct es) (hfound : s.Shows sight found)
    (h : s.navigator.active = some ⟨id, false, .watching sight deadline⟩)
    (ha : a.IsProgress id) (hmem : a ∈ s.acts es) :
    ∃ part rest, es = part ++ .move :: rest ∧ s.Finds id deadline found part := by
  obtain ⟨part, e, rest, rfl, hdwells, -, hexits⟩ := exists_exit hd h rfl ha hmem
  rcases hexits with ⟨hawaiting, -⟩ | ⟨rfl, m, hm, hgoes⟩
  · cases hawaiting
  · refine ⟨part, rest, rfl, hdwells.undisturbed, hdwells.waits.mono fun front hwaits => ?_, ?_⟩
    · rw [hfound front]
      exact Stage.watching_waits_iff.mp hwaits
    · rw [hfound part]
      refine Classical.byContradiction fun hunseen => ?_
      simp only [Stage.move, Bool.false_eq_true, if_false, if_neg hunseen] at hm
      split at hm
      · exact absurd (Option.some.inj hm).symm (hgoes _)
      · cases hm

end Session

end GroundStation
