import GroundStation.Proofs.Time.Pacing
import GroundStation.Station.Supervisor

/-!
# How a supervisor keeps its task running

A supervised task is started again after every run, whatever came of it, as long as nobody cancels.
The pauses before that are told here without a backoff (`Supervisor.pauses`): a second after the
first run and after every run of more than a minute, else twice the pause before, but no more than
half a minute. The backoff of the supervisor is one pause ahead: what it hands out next hangs on the
pause before and on the run that is still going on (`Supervisor.Paced`).

A cancellation ends the supervisor wherever it comes. It is heard while the task runs or in the
pause; where it comes as a run ends and that is noticed first, a run that failed is still followed
by a pause, but the pause takes a second at least and is cut short.

## Main results

* `Supervisor.step_taskEnds`: the pause after a run.
* `Supervisor.play_keeps`: the starts of a task, by induction on its rounds.
* `Supervisor.task_kept_running`: the same from the first start on.
-/

namespace GroundStation

namespace Supervisor

/-- The pause after a round, in milliseconds, by the pause before it. -/
def pauseOf (previous : Option Nat) (r : TaskRound) : Nat :=
  match previous with
  | none => 1000
  | some before =>
    if 60 * nanosPerSecond < r.run.uptime.nanoseconds then 1000 else min 30000 (2 * before)

/-- The pauses after the rounds of a task. -/
def pauses (previous : Option Nat) : List TaskRound → List Nat
  | [] => []
  | r :: rest => pauseOf previous r :: pauses (some (pauseOf previous r)) rest

/-- Pauses of a second at least, so far. -/
def LongEnough (previous : Option Nat) : Prop := ∀ before, previous = some before → 1000 ≤ before

variable {previous : Option Nat} {r : TaskRound} {s : Supervisor}
  {cancelAt : Option Instant} {started now : Instant}

theorem pauseOf_bounds (h : LongEnough previous) (r : TaskRound) :
    1000 ≤ pauseOf previous r ∧ pauseOf previous r ≤ 30000 := by
  cases previous with
  | none =>
      change 1000 ≤ 1000 ∧ 1000 ≤ 30000
      omega
  | some before =>
      have hbefore := h before rfl
      unfold pauseOf
      dsimp only
      split_ifs <;> omega

theorem longEnough_pauseOf (h : LongEnough previous) (r : TaskRound) :
    LongEnough (some (pauseOf previous r)) := by
  rintro before ⟨⟩
  exact (pauseOf_bounds h r).1

theorem pauses_bounds (h : LongEnough previous) (rounds : List TaskRound) :
    ∀ p ∈ pauses previous rounds, 1000 ≤ p ∧ p ≤ 30000 := by
  induction rounds generalizing previous with
  | nil => exact fun p hp => absurd hp List.not_mem_nil
  | cons r rest ih =>
      intro p hp
      rcases List.mem_cons.mp hp with rfl | hrest
      · exact pauseOf_bounds h r
      · exact ih (longEnough_pauseOf h r) p hrest

/-! ## One pause -/

/-- A running supervisor whose last pause took so many milliseconds. -/
structure Paced (s : Supervisor) (previous : Option Nat) : Prop where
  running : s.phase = .running
  least : s.pace.min = .ofSeconds 1
  most : s.pace.max = .ofSeconds 30
  factor : s.pace.multiplier = 2.0
  current : s.pace.current.nanoseconds = (match previous with
    | none => 1000
    | some before => min 30000 (2 * before)) * 1000000
  long : LongEnough previous

theorem start_paced : start.Paced none where
  running := rfl
  least := rfl
  most := rfl
  factor := rfl
  current := by decide
  long := nofun

/-- The backoff before the pause: its delay is the pause. -/
theorem Paced.current_of_reset (h : s.Paced previous) (r : TaskRound) :
    ∃ d : Duration,
      (if steadyUptime.nanoseconds < r.run.uptime.nanoseconds then s.pace.reset else s.pace) =
          { s.pace with current := d } ∧
        d.nanoseconds = pauseOf previous r * 1000000 := by
  have hsteady : steadyUptime.nanoseconds = 60 * nanosPerSecond := by decide
  have hsecond : (Duration.ofSeconds 1).nanoseconds = 1000 * 1000000 := by decide
  have hcurrent := h.current
  rw [hsteady]
  split_ifs with hlong
  · refine ⟨s.pace.min, rfl, ?_⟩
    rw [h.least, hsecond]
    cases previous with
    | none => rfl
    | some before => rw [pauseOf, if_pos hlong]
  · refine ⟨s.pace.current, rfl, ?_⟩
    cases previous with
    | none => exact hcurrent
    | some before => rw [hcurrent, pauseOf, if_neg hlong]

theorem pauseEnd_of_millis {d : Duration} {millis : Nat}
    (h : d.nanoseconds = millis * 1000000) (hshort : millis ≤ 30000) :
    pauseEnd now d = now + millis := by
  have hfar : farFuture = 946080000000 := rfl
  have hmillis : min d.timerMillis farFuture = millis := by
    unfold Duration.timerMillis
    omega
  exact congrArg (now + ·) hmillis

/-- **The pause after a run**, and the supervisor when it is over. -/
theorem step_taskEnds (h : s.Paced previous) (now : Instant) (r : TaskRound) :
    ∃ later, s.step now (.taskEnds r.run.uptime) =
        ⟨later, .pausing (now + pauseOf previous r)⟩ ∧
      (Supervisor.mk later .running).Paced (some (pauseOf previous r)) := by
  obtain ⟨d, hpace, hd⟩ := h.current_of_reset r
  have hbounds := pauseOf_bounds h.long r
  have hlimit : 30000 * 1000000 < 2 ^ 22 * nanosPerSecond := by decide
  have hmost : (Duration.ofSeconds 30).nanoseconds = 30000 * 1000000 := by decide
  obtain ⟨e, hnext, he⟩ := Backoff.next_of_two { s.pace with current := d } h.factor
    (by dsimp only; omega)
  refine ⟨{ s.pace with current := e }, ?_, rfl, h.least, h.most, h.factor, ?_,
    longEnough_pauseOf h.long r⟩
  · simp only [step, h.running, hpace, hnext]
    rw [pauseEnd_of_millis hd hbounds.2]
  · change e.nanoseconds = min 30000 (2 * pauseOf previous r) * 1000000
    simp only [h.most, hmost] at he
    rcases he with ⟨hdouble, hbelow⟩ | ⟨hcut, habove⟩
    · omega
    · rw [hcut, hmost]
      omega

/-! ## One round -/

theorem cancelledBy_iff :
    cancelledBy cancelAt now = true ↔ ∃ c, cancelAt = some c ∧ c ≤ now := by
  cases cancelAt <;> simp [cancelledBy]

theorem cancelledFirst_iff {endFirst : Bool} :
    cancelledFirst cancelAt now endFirst = true ↔
      ∃ c, cancelAt = some c ∧ (c < now ∨ c = now ∧ endFirst = false) := by
  cases cancelAt <;> cases endFirst <;>
    simp [cancelledFirst, cancelledBefore, cancelledBy, Nat.le_iff_lt_or_eq]

/-- What is noticed at the end of the run has come before the end of the pause. -/
theorem cancelledFirst_of_earlier {ends wake : Instant} {endFirst : Bool} (hlt : ends < wake)
    (h : cancelledBy cancelAt ends = true) : cancelledFirst cancelAt wake endFirst = true := by
  obtain ⟨c, hc, hle⟩ := cancelledBy_iff.mp h
  exact cancelledFirst_iff.mpr ⟨c, hc, .inl (hle.trans_lt hlt)⟩

/-- The instant at which the pause after a round is over. -/
def wakeAfter (previous : Option Nat) (started : Instant) (r : TaskRound) : Instant :=
  started + r.run.millis + pauseOf previous r

/-- **One round**: the end of the pause decides, wherever a cancellation is heard. Either the
supervisor has ended, or the task is started when the pause is over. -/
theorem play_cons (h : s.Paced previous) (cancelAt : Option Instant) (started : Instant)
    (r : TaskRound) (rest : List TaskRound) :
    (cancelledFirst cancelAt (wakeAfter previous started r) r.pauseEndsFirst = true ∧
      ∃ last, s.play cancelAt started (r :: rest) = ([], last) ∧ last.phase = .ended) ∨
    (cancelledFirst cancelAt (wakeAfter previous started r) r.pauseEndsFirst = false ∧
      ∃ later : Supervisor, later.Paced (some (pauseOf previous r)) ∧
        s.play cancelAt started (r :: rest) =
          (wakeAfter previous started r ::
              (later.play cancelAt (wakeAfter previous started r) rest).1,
            (later.play cancelAt (wakeAfter previous started r) rest).2)) := by
  obtain ⟨pace, hstep, hpaced⟩ := step_taskEnds h (started + r.run.millis) r
  have hlong : started + r.run.millis < wakeAfter previous started r :=
    Nat.lt_add_of_pos_right (Nat.lt_of_lt_of_le (by decide) (pauseOf_bounds h.long r).1)
  rw [play]
  dsimp only
  split_ifs with hheard
  · have hcome : cancelledBy cancelAt (started + r.run.millis) = true := by
      rcases hheard with hfirst | ⟨-, hby⟩
      · obtain ⟨c, hc, hle⟩ := cancelledFirst_iff.mp hfirst
        exact cancelledBy_iff.mpr ⟨c, hc, hle.elim Nat.le_of_lt fun hsame => hsame.1.le⟩
      · exact hby
    exact .inl ⟨cancelledFirst_of_earlier hlong hcome, _, rfl, rfl⟩
  · rw [hstep]
    dsimp only
    cases hcut : cancelledFirst cancelAt (wakeAfter previous started r) r.pauseEndsFirst with
    | true => exact .inl ⟨rfl, _, if_pos hcut, rfl⟩
    | false =>
        exact .inr ⟨rfl, _, hpaced, if_neg fun h => Bool.false_ne_true (hcut.symm.trans h)⟩

/-! ## All rounds -/

/-- **A task that is kept running**, by its rounds, the pauses after them, its starts and the
supervisor at the end: every pause is between a second and half a minute; after a run and the pause
after it the task is started again if the cancellation comes later, and not started again if it
comes earlier; it is never started otherwise; and the supervisor ends just if there is a
cancellation. -/
structure KeptRunning (cancelAt : Option Instant) (rounds : List TaskRound) (pauses : List Nat)
    (starts : List Instant) (last : Supervisor) : Prop where
  bounds : ∀ p ∈ pauses, 1000 ≤ p ∧ p ≤ 30000
  again : ∀ k t r p, starts[k]? = some t → rounds[k]? = some r → pauses[k]? = some p →
    (∀ c, cancelAt = some c → t + r.run.millis + p < c) →
    starts[k + 1]? = some (t + r.run.millis + p)
  cut : ∀ k t r p c, starts[k]? = some t → rounds[k]? = some r → pauses[k]? = some p →
    cancelAt = some c → c < t + r.run.millis + p → starts[k + 1]? = none
  only : ∀ k u, starts[k + 1]? = some u → ∃ t r p, starts[k]? = some t ∧ rounds[k]? = some r ∧
    pauses[k]? = some p ∧ u = t + r.run.millis + p
  ended : last.phase = .ended ↔ cancelAt.isSome = true

/-- A task whose supervisor ends after its first round. -/
theorem KeptRunning.of_cut {p : Nat} {ps : List Nat} {rest : List TaskRound} {last : Supervisor}
    (hbounds : ∀ q ∈ p :: ps, 1000 ≤ q ∧ q ≤ 30000) (hended : last.phase = .ended)
    {c : Instant} (hc : cancelAt = some c) (hcut : c ≤ started + r.run.millis + p) :
    KeptRunning cancelAt (r :: rest) (p :: ps) [started] last where
  bounds := hbounds
  again k t r' p' ht hr hp hnever := by
    match k with
    | 0 =>
        cases ht
        cases hr
        cases hp
        exact absurd (hnever c hc) (Nat.not_lt.mpr hcut)
    | k + 1 => cases ht
  cut _ _ _ _ _ _ _ _ _ _ := rfl
  only k u hu := by cases hu
  ended := by simp [hended, hc]

/-- A task that is started again after its first round. -/
theorem KeptRunning.cons {p : Nat} {ps : List Nat} {rest : List TaskRound} {last : Supervisor}
    {later : List Instant} (hp : 1000 ≤ p ∧ p ≤ 30000)
    (hlate : ∀ c, cancelAt = some c → ¬ c < started + r.run.millis + p)
    (h : KeptRunning cancelAt rest ps ((started + r.run.millis + p) :: later) last) :
    KeptRunning cancelAt (r :: rest) (p :: ps)
      (started :: (started + r.run.millis + p) :: later) last where
  bounds := List.forall_mem_cons.mpr ⟨hp, h.bounds⟩
  again k t r' p' ht hr hp hnever := by
    match k with
    | 0 =>
        cases ht
        cases hr
        cases hp
        rfl
    | k + 1 => exact h.again k t r' p' ht hr hp hnever
  cut k t r' p' c ht hr hp hc hlt := by
    match k with
    | 0 =>
        cases ht
        cases hr
        cases hp
        exact absurd hlt (hlate c hc)
    | k + 1 => exact h.cut k t r' p' c ht hr hp hc hlt
  only k u hu := by
    match k with
    | 0 =>
        cases hu
        exact ⟨started, r, p, rfl, rfl, rfl, rfl⟩
    | k + 1 => exact h.only k u hu
  ended := h.ended

/-- **The starts of a task**, by induction on its rounds. -/
theorem play_keeps (h : s.Paced previous) (cancelAt : Option Instant) (started : Instant)
    (rounds : List TaskRound) :
    KeptRunning cancelAt rounds (pauses previous rounds)
      (started :: (s.play cancelAt started rounds).1) (s.play cancelAt started rounds).2 := by
  induction rounds generalizing s previous started with
  | nil =>
      refine ⟨nofun, nofun, nofun, nofun, ?_⟩
      cases cancelAt with
      | none => simp [play, h.running]
      | some c => simp [play, step]
  | cons r rest ih =>
      rcases play_cons h cancelAt started r rest with ⟨hcut, last, hplay, hended⟩ |
        ⟨hlate, later, hlater, hplay⟩
      · obtain ⟨c, hc, hle⟩ := cancelledFirst_iff.mp hcut
        rw [hplay]
        exact .of_cut (pauses_bounds h.long (r :: rest)) hended hc
          (hle.elim Nat.le_of_lt fun hsame => hsame.1.le)
      · rw [hplay]
        refine .cons (pauseOf_bounds h.long r) (fun c hc hlt => ?_) (ih hlater _)
        have hheard : cancelledFirst cancelAt (wakeAfter previous started r) r.pauseEndsFirst =
            true := cancelledFirst_iff.mpr ⟨c, hc, .inl hlt⟩
        rw [hlate] at hheard
        cases hheard

/-- No delay is spoiled, whatever is asked of the backoff of a supervisor. -/
theorem answer_start_pace (calls : List BackoffCall) : start.pace.answer calls ≠ none :=
  (Backoff.orderly_of_two (by decide) (by decide)).answers calls

/-- **A supervised task is kept running** from the start of the clock on, whatever comes of its runs
and whenever it is cancelled. Its pauses can always be computed. -/
theorem task_kept_running (cancelAt : Option Instant) (rounds : List TaskRound) :
    KeptRunning cancelAt rounds (pauses none rounds) (0 :: (start.play cancelAt 0 rounds).1)
        (start.play cancelAt 0 rounds).2 ∧
      ∀ calls, start.pace.answer calls ≠ none :=
  ⟨play_keeps start_paced cancelAt 0 rounds, answer_start_pace⟩

end Supervisor

end GroundStation
