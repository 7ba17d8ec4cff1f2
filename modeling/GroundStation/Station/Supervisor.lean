import GroundStation.Time.Backoff
import GroundStation.Time.Clock

/-!
# Keeping a task running

A supervisor starts its task again whenever the task ends, failed or not, after a
pause that doubles from one second to thirty. A run that stayed up for more than a
minute takes the pause back to one second. Cancelling ends the supervisor: a run
is broken off, and a pause is not waited out. A run that finishes when the
cancellation has come, but has not been heard, is the last one as well.

`Supervisor.step` is the supervisor by itself; `Supervisor.play` plays it against
the rounds of a task. The runs in them are known by their length and by what the
clock that judges it says about that length. Where the cancellation comes at the
very instant at which a run or a pause ends, either may be noticed first, and the
round says which. `Supervisor.starts` is the case of runs that fail and whose ends
are noticed first, so that at the instant at which a pause is over the task is
started once more.
-/

namespace GroundStation

/-- What a supervisor is doing. -/
inductive SupervisorPhase where
  | running
  | pausing (wake : Instant)
  | ended
deriving DecidableEq, Repr

/-- A supervisor and the pauses it has left to make. -/
structure Supervisor where
  pace : Backoff
  phase : SupervisorPhase

/-- What happens to a supervisor. -/
inductive SupervisorEvent where
  | taskEnds (uptime : Duration)
  | wakes
  | cancelled

namespace Supervisor

/-- The pauses before the task is started again. -/
def freshPace : Backoff := .new (.ofSeconds 1) (.ofSeconds 30) 2.0

/-- A run longer than this counts as a good one. -/
def steadyUptime : Duration := .ofSeconds 60

/-- A supervisor that has just started its task. -/
def start : Supervisor := ⟨freshPace, .running⟩

/-- One event at an instant. -/
def step (s : Supervisor) (now : Instant) : SupervisorEvent → Supervisor
  | .cancelled => { s with phase := .ended }
  | .wakes =>
    match s.phase with
    | .pausing _ => { s with phase := .running }
    | _ => s
  | .taskEnds uptime =>
    match s.phase with
    | .running =>
      let pace := if steadyUptime.nanoseconds < uptime.nanoseconds then s.pace.reset else s.pace
      let (pause, later) := pace.next
      ⟨later, .pausing (pauseEnd now pause)⟩
    | _ => s

end Supervisor

/-- One run of a supervised task: how long it takes, and its uptime. -/
structure TaskRun where
  millis : Nat
  uptime : Duration

/-- How a run of a task ends by itself. -/
inductive TaskResult where
  | finished
  | failed
deriving DecidableEq, Repr

/-- A run that ends by itself, how it does, and whether its end, and that of the pause after
it, is noticed before a cancellation at the same instant. -/
structure TaskRound where
  run : TaskRun
  result : TaskResult
  runEndsFirst : Bool
  pauseEndsFirst : Bool

/-- The round of a run that fails, in which ends are noticed first. -/
def TaskRound.failing (run : TaskRun) : TaskRound := ⟨run, .failed, true, true⟩

namespace Supervisor

/-- Has the cancellation come by an instant? -/
def cancelledBy (cancelAt : Option Instant) (now : Instant) : Bool := cancelAt.any (· ≤ now)

/-- Has the cancellation come before an instant? -/
def cancelledBefore (cancelAt : Option Instant) (now : Instant) : Bool := cancelAt.any (· < now)

/-- Is the cancellation noticed when something ends at an instant? -/
def cancelledFirst (cancelAt : Option Instant) (now : Instant) (endFirst : Bool) : Bool :=
  if endFirst then cancelledBefore cancelAt now else cancelledBy cancelAt now

/-- Plays a supervisor that has started its task at an instant against the rounds of the
task; a task that has none left runs until it is cancelled. The result is the
instants at which the task is started after that, and the supervisor at the end. -/
def play (s : Supervisor) (cancelAt : Option Instant) (started : Instant) :
    List TaskRound → List Instant × Supervisor
  | [] => ([], if cancelAt.isSome then s.step started .cancelled else s)
  | r :: rest =>
    let ends := started + r.run.millis
    if cancelledFirst cancelAt ends r.runEndsFirst ∨
        r.result = .finished ∧ cancelledBy cancelAt ends then ([], s.step ends .cancelled)
    else
      let pausing := s.step ends (.taskEnds r.run.uptime)
      match pausing.phase with
      | .pausing wake =>
        if cancelledFirst cancelAt wake r.pauseEndsFirst then ([], pausing.step wake .cancelled)
        else
          let (later, last) := (pausing.step wake .wakes).play cancelAt wake rest
          (wake :: later, last)
      | _ => ([], pausing)

/-- The instants at which a task is started whose runs fail, the first one being the start of
the clock. -/
def starts (cancelAt : Option Instant) (runs : List TaskRun) : List Instant :=
  0 :: (start.play cancelAt 0 (runs.map .failing)).1

end Supervisor

end GroundStation
