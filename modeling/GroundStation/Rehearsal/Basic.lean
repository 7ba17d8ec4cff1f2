import GroundStation.Command.Console
import GroundStation.Rehearsal.Script

/-!
# Rehearsals

A rehearsal flies commands and operations on a scripted vehicle link and a clock
that moves only when told to. After each thing done everything runs until nothing
can go on without time passing; the calls made and the requests that ended since
then are what a rehearsal observes.

Time moves from one timer to the next, and everything runs at each of them, so a
timer due at the end of a stretch of time fires in that stretch.
-/

namespace GroundStation

/-- A console on a scripted link, the number of the next request, and what was
observed: the link calls made and the requests that ended. -/
structure Rehearsal where
  console : Console
  link : ScriptedLink
  nextId : Nat
  calls : List LinkCall
  reports : List (Nat × Report)

namespace Rehearsal

/-- A rehearsal at the start of the clock. -/
def new (console : Console) (script : List ScriptEntry) : Rehearsal :=
  ⟨console, .new script, 0, [], []⟩

/-- Forgets what was observed so far. -/
def watch (r : Rehearsal) : Rehearsal := { r with calls := [], reports := [] }

/-- Hands over the answer to a call. -/
def answer (r : Rehearsal) (id : Nat) (reply : Reply) : Rehearsal :=
  let (console, report) := r.console.answer id reply
  { r with console := console, reports := r.reports ++ report.toList.map fun x => (id, x) }

/-- Carries out an act of the console. -/
def perform (r : Rehearsal) : ConsoleAct → Rehearsal
  | .reports id report => { r with reports := r.reports ++ [(id, report)] }
  | .givesUp id => { r with link := r.link.giveUp id }
  | .calls id call =>
    let (link, reply) := r.link.meet id call
    let r := { r with link := link, calls := r.calls ++ [call] }
    match reply with
    | some reply => r.answer id reply
    | none => r

/-- Goes on from what the console did. -/
def follow (r : Rehearsal) (done : Console × List ConsoleAct) : Rehearsal :=
  done.2.foldl perform { r with console := done.1 }

/-- Runs the navigator's moves, at most so many. -/
def run : Nat → Rehearsal → Rehearsal
  | 0, r => r
  | moves + 1, r => if r.console.isQuiet then r else run moves (r.follow (r.console.step .move))

/-- Runs until nothing can go on without time passing. -/
def settle (r : Rehearsal) : Rehearsal := run r.console.session.navigator.stepsLeft r

/-- Lets the clock run to an instant through at most so many timers. -/
def advanceThrough : Nat → Instant → Rehearsal → Rehearsal
  | 0, target, r => r.follow (r.console.step (.pass (target - r.console.session.now)))
  | timers + 1, target, r =>
    let now := r.console.session.now
    match r.console.timer with
    | some due =>
      if due ≤ target then
        advanceThrough timers target (r.follow (r.console.step (.pass (due - now)))).settle
      else r.follow (r.console.step (.pass (target - now)))
    | none => r.follow (r.console.step (.pass (target - now)))

/-! ## What can be done in a rehearsal -/

/-- Lets time pass. Every timer that fires moves the navigator, which bounds their
number. -/
def advance (r : Rehearsal) (millis : Nat) : Rehearsal :=
  advanceThrough r.console.session.navigator.stepsLeft (r.console.session.now + millis) r

/-- Applies telemetry, all of it before anything runs. -/
def report (r : Rehearsal) (updates : List Update) : Rehearsal :=
  (updates.foldl (fun r u => r.follow (r.console.step (.telemetry u r.console.session.now)))
    r).settle

/-- Gives the request made next its number. -/
def submit (r : Rehearsal) (request : Console → Nat → Console × List ConsoleAct) : Rehearsal :=
  { r with nextId := r.nextId + 1 }.follow (request r.console r.nextId) |>.settle

/-- Carries out a command in the background. -/
def execute (r : Rehearsal) (command : Command) : Rehearsal :=
  r.submit fun c id => c.execute id command

/-- Runs a navigation operation in the background. -/
def fly (r : Rehearsal) (request : Request) : Rehearsal :=
  r.submit fun c id => (c.fly id request .operation, [])

/-- Waits for the vehicle in the background. -/
def awaitAttachment (r : Rehearsal) : Rehearsal := r.submit fun c id => c.awaitAttachment id

/-- Attaches the vehicle. -/
def attach (r : Rehearsal) : Rehearsal := (r.follow r.console.attach).settle

/-- Cancels the operation that runs. -/
def cancel (r : Rehearsal) : Rehearsal := (r.follow (r.console.step .cancel)).settle

/-- Answers the oldest call that waits, and tells which one that was. -/
def reply (r : Rehearsal) (of : LinkCall → Reply) : Rehearsal × Option LinkCall :=
  match r.link.takeOldest with
  | some (id, call, link) => (({ r with link := link }.answer id (of call)).settle, some call)
  | none => (r, none)

end Rehearsal

end GroundStation
